import TypeStencil.Proofs.Descriptor.Fields

/-!
Tables that lay out one member in different ways. The entries may come in any order, a field may go
by any of its spellings, names that spell no field may be there or not, and some lists may be in any
order. As long as no field is spelled twice, the descriptor that is read off is the same but for the
order of those lists.
-/
namespace TypeStencil

namespace Descriptor

variable {F : Type} [DecidableEq F] {fieldOf? : String → Option F} {unordered : F → Prop}
  {entries entries' : Entries Value}

/-- One change to the layout of a member, where the lists of some fields are unordered. -/
inductive Relaid (fieldOf? : String → Option F) (unordered : F → Prop) :
    Entries Value → Entries Value → Prop where
  | keys {entries entries' : Entries Value} (h : entries.Perm entries') :
      Relaid fieldOf? unordered entries entries'
  | spelling (before after : Entries Value) {s t : String} {f : F} (v : Value)
      (hs : fieldOf? s = some f) (ht : fieldOf? t = some f) :
      Relaid fieldOf? unordered (before ++ (.str s, v) :: after) (before ++ (.str t, v) :: after)
  | unknown (before after : Entries Value) {e : Scalar × Value}
      (h : spelledField? fieldOf? e = none) :
      Relaid fieldOf? unordered (before ++ after) (before ++ e :: after)
  | list (before after : Entries Value) {s : String} {f : F} {items items' : List Value}
      (hs : fieldOf? s = some f) (hf : unordered f) (h : items.Perm items') :
      Relaid fieldOf? unordered (before ++ (.str s, .list items) :: after)
        (before ++ (.str s, .list items') :: after)

/-- Values of a field that differ in the order of a list at most, if that order does not count. -/
def SameValues (unordered : Prop) (vs vs' : List Value) : Prop :=
  vs' = vs ∨ unordered ∧ ∃ items items' : List Value, items.Perm items' ∧ vs = [.list items] ∧
    vs' = [.list items']

theorem SameValues.symm {unordered : Prop} {vs vs' : List Value} (h : SameValues unordered vs vs') :
    SameValues unordered vs' vs := by
  rcases h with rfl | ⟨hu, items, items', hperm, rfl, rfl⟩
  · exact .inl rfl
  · exact .inr ⟨hu, items', items, hperm.symm, rfl, rfl⟩

theorem SameValues.of_ordered {unordered : Prop} {vs vs' : List Value}
    (h : SameValues unordered vs vs') (hordered : ¬ unordered) : vs' = vs :=
  h.resolve_right fun hu => hordered hu.1

theorem valuesOf_append (f : F) (before after : Entries Value) :
    valuesOf fieldOf? f (before ++ after) =
      valuesOf fieldOf? f before ++ valuesOf fieldOf? f after :=
  List.filterMap_append

theorem valuesOf_cons (f : F) (e : Scalar × Value) (rest : Entries Value) :
    valuesOf fieldOf? f (e :: rest) =
      if spelledField? fieldOf? e = some f then e.2 :: valuesOf fieldOf? f rest
      else valuesOf fieldOf? f rest := by
  rw [valuesOf, List.filterMap_cons]
  by_cases h : spelledField? fieldOf? e = some f
  · rw [if_pos h, if_pos h]
    rfl
  · rw [if_neg h, if_neg h]
    rfl

theorem eq_of_perm_of_length {α : Type} {l l' : List α} (h : l.Perm l') (hl : l.length ≤ 1) :
    l' = l := by
  rcases l with _ | ⟨a, _ | ⟨b, rest⟩⟩
  · exact h.nil_eq.symm
  · exact (List.singleton_perm.mp h).symm
  · simp at hl

/-- A change of layout keeps the values of every field that is given once, but for the order of
lists where it does not count. -/
theorem Relaid.sameValues (h : Relaid fieldOf? unordered entries entries') {f : F}
    (honce : (valuesOf fieldOf? f entries).length ≤ 1) :
    SameValues (unordered f) (valuesOf fieldOf? f entries) (valuesOf fieldOf? f entries') := by
  cases h with
  | keys h => exact .inl (eq_of_perm_of_length (h.filterMap _) honce)
  | spelling before after v hs ht =>
      refine .inl ?_
      rw [valuesOf_append, valuesOf_append, valuesOf_cons, valuesOf_cons]
      simp only [spelledField?, hs, ht]
  | unknown before after h =>
      refine .inl ?_
      rw [valuesOf_append, valuesOf_append, valuesOf_cons, h, if_neg (Option.some_ne_none f).symm]
  | @list before after s g items items' hs hg hperm =>
      rw [valuesOf_append, valuesOf_cons] at honce ⊢
      rw [valuesOf_append, valuesOf_cons]
      simp only [spelledField?, hs, Option.some.injEq] at honce ⊢
      by_cases hf : g = f
      · subst hf
        rw [if_pos rfl, List.length_append, List.length_cons] at honce
        have hbefore := List.eq_nil_of_length_eq_zero (l := valuesOf fieldOf? g before) (by omega)
        have hafter := List.eq_nil_of_length_eq_zero (l := valuesOf fieldOf? g after) (by omega)
        rw [hbefore, hafter, if_pos rfl, if_pos rfl]
        exact .inr ⟨hg, items, items', hperm, rfl, rfl⟩
      · rw [if_neg hf, if_neg hf]
        exact .inl rfl

/-- A table that gives every field at most once, and only values that the field may have. -/
structure Plain (fieldOf? : String → Option F) (proper : F → Value → Prop)
    (entries : Entries Value) : Prop where
  once : ∀ f, (valuesOf fieldOf? f entries).length ≤ 1
  proper : ∀ f, ∀ v ∈ valuesOf fieldOf? f entries, proper f v

theorem Plain.relaid {proper : F → Value → Prop} (hplain : Plain fieldOf? proper entries)
    (hproper : ∀ {f : F} {items items' : List Value}, unordered f → items.Perm items' →
      proper f (.list items) → proper f (.list items'))
    (h : Relaid fieldOf? unordered entries entries') : Plain fieldOf? proper entries' := by
  refine ⟨fun f => ?_, fun f v hv => ?_⟩
  · rcases h.sameValues (hplain.once f) with heq | ⟨-, _, _, -, -, heq⟩
    · rw [heq]
      exact hplain.once f
    · exact Nat.le_of_eq (congrArg List.length heq)
  · rcases h.sameValues (hplain.once f) with heq | ⟨hf, items, items', hperm, hitems, heq⟩
    · exact hplain.proper f v (heq ▸ hv)
    · rw [heq, List.mem_singleton] at hv
      subst hv
      exact hproper hf hperm (hplain.proper f _ (by rw [hitems, List.mem_singleton]))

end Descriptor

open Descriptor

/-- A layout does not change the property that is read off. -/
theorem PropertyDescriptor.ofEntries_of_sameValues {entries entries' : Entries Value}
    (h : ∀ f, SameValues False (valuesOf PropertyField.ofSpelling? f entries)
      (valuesOf PropertyField.ofSpelling? f entries'))
    {d : PropertyDescriptor} (hd : ofEntries entries = .ok d) : ofEntries entries' = .ok d := by
  have hgiven : given? entries' = given? entries :=
    funext fun f => congrArg List.getLast? ((h f).of_ordered id)
  obtain ⟨hmandatory, rfl⟩ := ofEntries_eq_ok.mp hd
  exact ofEntries_eq_ok.mpr ⟨hgiven ▸ hmandatory, by rw [hgiven]⟩

theorem FunctionDescriptor.ofFunction_get (d : FunctionDescriptor) : ofFunction d.get = d := rfl

theorem FunctionDescriptor.get_withImports (d : FunctionDescriptor) (v : Value)
    (f : FunctionField) :
    ({ d with imports := v } : FunctionDescriptor).get f = if f = .imports then v else d.get f := by
  cases f <;> rfl

/-- A layout changes the order of the import lines of a function at most. -/
theorem FunctionDescriptor.ofEntries_of_sameValues {entries entries' : Entries Value}
    (h : ∀ f, SameValues (f = .imports) (valuesOf FunctionField.ofSpelling? f entries)
      (valuesOf FunctionField.ofSpelling? f entries'))
    {d : FunctionDescriptor} (hd : ofEntries entries = .ok d) :
    ofEntries entries' = .ok d ∨ ∃ items items' : List Value, items.Perm items' ∧
      d.imports = .list items ∧ ofEntries entries' = .ok { d with imports := .list items' } := by
  have hgiven : ∀ f ≠ .imports, given? entries' f = given? entries f := fun f hf => by
    rw [given?, (h f).of_ordered hf, given?]
  obtain ⟨hrequired, rfl⟩ := ofEntries_eq_ok.mp hd
  have hrequired' : ∀ f ∈ FunctionField.required, (given? entries' f).isSome = true := by
    intro f hf
    rw [hgiven f (by rintro rfl; exact absurd hf (by decide))]
    exact hrequired f hf
  rcases h .imports with heq | ⟨-, items, items', hperm, hitems, hitems'⟩
  · have hall : given? entries' = given? entries := by
      funext f
      by_cases hf : f = .imports
      · rw [given?, given?, hf, heq]
      · exact hgiven f hf
    exact .inl (ofEntries_eq_ok.mpr ⟨hrequired', by rw [hall]⟩)
  · have hlist : given? entries .imports = some (.list items) := by
      rw [given?, hitems]
      rfl
    have hlist' : given? entries' .imports = some (.list items') := by
      rw [given?, hitems']
      rfl
    refine .inr ⟨items, items', hperm, ?_, ofEntries_eq_ok.mpr ⟨hrequired', ?_⟩⟩
    · rw [ofFunction, hlist, Option.getD_some]
    · rw [← ofFunction_get { ofFunction _ with imports := _ }]
      refine congrArg ofFunction (funext fun f => ?_)
      rw [get_withImports, get_ofFunction]
      by_cases hf : f = .imports
      · rw [if_pos hf, hf, hlist', Option.getD_some]
      · rw [if_neg hf, hgiven f hf]

end TypeStencil
