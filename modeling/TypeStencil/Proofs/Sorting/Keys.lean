import TypeStencil.ClassModel
import TypeStencil.Proofs.Sorting.Joined
import TypeStencil.Proofs.Sorting.Stable
import TypeStencil.Proofs.Value.Numbers

/-!
Sorting by keys that are scalars. Texts can be compared with texts and numbers with numbers, and
every item is compared with some other if there is another; so a list is sorted exactly if it has
one item at most or all its keys are of one of these kinds, and then the sort is a stable one.
-/
namespace TypeStencil

namespace Scalar

variable {γ : Type} [LinearOrder γ] {S : Scalar → Prop} {rank : Scalar → γ}

/-- A text goes before another by its code points, a number before another by its value. -/
def precedes : Scalar → Scalar → Bool
  | .str s, .str t => decide (s < t)
  | a, b => decide (a.number < b.number)

/-- The scalars of a kind are compared by their rank, and they are the same if they have the same
rank. -/
structure OrderedBy (S : Scalar → Prop) (rank : Scalar → γ) : Prop where
  lt_eq : ∀ {a b}, S a → S b → a.lt b = .ok (decide (rank a < rank b))
  precedes_eq : ∀ {a b}, S a → S b → a.precedes b = decide (rank a < rank b)
  same_iff : ∀ {a b}, S a → S b → (a.same b = true ↔ rank a = rank b)

theorem orderedBy_text : OrderedBy (fun a => a.isText = true) text where
  lt_eq := by
    intro a b ha hb
    obtain ⟨s, rfl⟩ := isText_iff.mp ha
    obtain ⟨t, rfl⟩ := isText_iff.mp hb
    rfl
  precedes_eq := by
    intro a b ha hb
    obtain ⟨s, rfl⟩ := isText_iff.mp ha
    obtain ⟨t, rfl⟩ := isText_iff.mp hb
    rfl
  same_iff := by
    intro a b ha hb
    obtain ⟨s, rfl⟩ := isText_iff.mp ha
    obtain ⟨t, rfl⟩ := isText_iff.mp hb
    simp [same, measure?, text]

theorem orderedBy_number : OrderedBy (fun a => a.isNumber = true ∧ a.IsFinite) number where
  lt_eq := fun ha hb => lt_of_numbers ha.1 hb.1 ha.2 hb.2
  precedes_eq := by
    intro a b ha hb
    cases a with
    | str s => cases ha.1
    | _ => rfl
  same_iff := fun ha hb => same_of_numbers ha.1 hb.1 ha.2 hb.2

/-- Keys of which any two can be compared, or of which there are no two. -/
def Comparable (keys : List Scalar) : Prop :=
  keys.length ≤ 1 ∨ (∀ k ∈ keys, k.isText = true) ∨ ∀ k ∈ keys, k.isNumber = true

instance (keys : List Scalar) : Decidable (Comparable keys) :=
  inferInstanceAs (Decidable (_ ∨ _ ∨ _))

end Scalar

namespace Value

/-- Values that may be compared with each other. -/
inductive Alike : Value → Value → Prop where
  | texts {a b : Scalar} (ha : a.isText = true) (hb : b.isText = true) :
      Alike (.scalar a) (.scalar b)
  | numbers {a b : Scalar} (ha : a.isNumber = true) (hb : b.isNumber = true) :
      Alike (.scalar a) (.scalar b)
  | lists (xs ys : List Value) : Alike (.list xs) (.list ys)

namespace Alike

variable {v w u : Value}

theorem symm (h : Alike v w) : Alike w v := by
  cases h with
  | texts ha hb => exact texts hb ha
  | numbers ha hb => exact numbers hb ha
  | lists xs ys => exact lists ys xs

theorem trans (h : Alike v w) (h' : Alike w u) : Alike v u := by
  cases h with
  | texts ha hb =>
      cases h' with
      | texts _ hc => exact texts ha hc
      | numbers hb' _ =>
          rw [Scalar.not_isNumber_of_isText hb] at hb'
          cases hb'
  | numbers ha hb =>
      cases h' with
      | numbers _ hc => exact numbers ha hc
      | texts hb' _ =>
          rw [Scalar.not_isNumber_of_isText hb'] at hb
          cases hb
  | lists xs ys =>
      cases h' with
      | lists _ zs => exact lists xs zs

theorem of_lt {less : Bool} (h : Value.lt v w = .ok less) : Alike v w := by
  cases v with
  | scalar a =>
      cases w with
      | scalar b =>
          rw [Value.lt] at h
          rcases Scalar.kinds_of_lt h with ⟨ha, hb⟩ | ⟨ha, hb⟩
          · exact texts ha hb
          · exact numbers ha hb
      | list ys => cases h
      | table ys => cases h
  | list xs =>
      cases w with
      | list ys => exact lists xs ys
      | scalar b => cases h
      | table ys => cases h
  | table xs => cases w <;> cases h

theorem isText {a b : Scalar} (h : Alike (.scalar a) (.scalar b)) (ha : a.isText = true) :
    b.isText = true := by
  cases h with
  | texts _ hb => exact hb
  | numbers ha' _ =>
      rw [Scalar.not_isNumber_of_isText ha] at ha'
      cases ha'

theorem isNumber {a b : Scalar} (h : Alike (.scalar a) (.scalar b)) (ha : a.isNumber = true) :
    b.isNumber = true := by
  cases h with
  | texts ha' _ =>
      rw [Scalar.not_isNumber_of_isText ha'] at ha
      cases ha
  | numbers _ hb => exact hb

/-- Keys of which any two are alike can be compared. -/
theorem comparable {α : Type} {value : α → Value} {key : α → Scalar} {xs : List α}
    (hkey : ∀ x ∈ xs, value x = .scalar (key x))
    (h : xs.Pairwise fun a b => Alike (value a) (value b)) : Scalar.Comparable (xs.map key) := by
  cases xs with
  | nil => exact .inl (Nat.zero_le 1)
  | cons x rest =>
      have hfirst : ∀ z ∈ rest, Alike (.scalar (key x)) (.scalar (key z)) := by
        intro z hz
        rw [← hkey x List.mem_cons_self, ← hkey z (List.mem_cons_of_mem x hz)]
        exact List.rel_of_pairwise_cons h hz
      cases rest with
      | nil => exact .inl (Nat.le_refl 1)
      | cons y rest =>
          refine .inr ?_
          simp only [List.forall_mem_map, List.forall_mem_cons] at hfirst ⊢
          obtain ⟨hy, hrest⟩ := hfirst
          cases hy with
          | texts ha hb => exact .inl ⟨ha, hb, fun z hz => (hrest z hz).isText ha⟩
          | numbers ha hb => exact .inr ⟨ha, hb, fun z hz => (hrest z hz).isNumber ha⟩

end Alike

end Value

namespace Sorting

variable {α β : Type} {key : α → Scalar} {xs ys : List α}

/-- The second list has the items of the first in the order of their keys, and items whose keys are
the same in the order in which the first list has them. -/
structure StablySorted (key : α → Scalar) (xs ys : List α) : Prop where
  perm : ys.Perm xs
  ordered : ys.Pairwise fun a b => (key b).precedes (key a) = false
  stable : ∀ k : Scalar,
    ys.filter (fun y => k.same (key y)) = xs.filter fun x => k.same (key x)

/-- What sorting some items by their keys comes to. -/
structure SortsBy (key : α → Scalar) (xs : List α) (result : Except Fault (List α)) : Prop where
  succeeds : (∃ ys, result = .ok ys) ↔ Scalar.Comparable (xs.map key)
  sorted : ∀ ys, result = .ok ys → StablySorted key xs ys
  refused : ¬ Scalar.Comparable (xs.map key) → ∃ cause, result = .error (.type cause)

theorem StablySorted.map {us vs : List β} (f : β → α)
    (h : StablySorted (fun u => key (f u)) us vs) :
    StablySorted key (us.map f) (vs.map f) where
  perm := h.perm.map f
  ordered := List.pairwise_map.mpr h.ordered
  stable := by
    intro k
    rw [List.filter_map, List.filter_map]
    exact congrArg (List.map f) (h.stable k)

section

variable {γ : Type} [LinearOrder γ] {S : Scalar → Prop} {rank : Scalar → γ}

/-- Items are ranked as their keys are. -/
theorem ranked_of_orderedBy (h : Scalar.OrderedBy S rank) (hS : ∀ x ∈ xs, S (key x)) :
    Ranked (· ∈ xs) fun a b => (key a).precedes (key b) where
  asymm := by
    intro a b ha hb hab
    rw [h.precedes_eq (hS a ha) (hS b hb), decide_eq_true_eq] at hab
    rw [h.precedes_eq (hS b hb) (hS a ha), decide_eq_false_iff_not]
    exact lt_asymm hab
  between := by
    intro a b c ha hb hc hac
    rw [h.precedes_eq (hS a ha) (hS c hc), decide_eq_true_eq] at hac
    rw [h.precedes_eq (hS a ha) (hS b hb), h.precedes_eq (hS b hb) (hS c hc), decide_eq_true_eq,
      decide_eq_true_eq]
    rcases lt_or_ge (rank (key a)) (rank (key b)) with hab | hba
    · exact .inl hab
    · exact .inr (lt_of_le_of_lt hba hac)

/-- Items are tied if their keys are the same. -/
theorem tied_eq_same (h : Scalar.OrderedBy S rank) (hS : ∀ x ∈ xs, S (key x)) {a b : α}
    (ha : a ∈ xs) (hb : b ∈ xs) :
    tied (fun a b => (key a).precedes (key b)) a b = (key a).same (key b) := by
  rw [tied, h.precedes_eq (hS a ha) (hS b hb), h.precedes_eq (hS b hb) (hS a ha),
    Bool.eq_iff_iff, h.same_iff (hS a ha) (hS b hb), Bool.and_eq_true, Bool.not_eq_true',
    Bool.not_eq_true', decide_eq_false_iff_not, decide_eq_false_iff_not, not_lt, not_lt]
  exact ⟨fun hab => le_antisymm hab.2 hab.1, fun hab => ⟨hab.ge, hab.le⟩⟩

/-- Items whose keys are of one kind are sorted stably. -/
theorem sort_of_orderedBy {lt : α → α → Except TypeFault Bool} (h : Scalar.OrderedBy S rank)
    (hS : ∀ x ∈ xs, S (key x)) (hlt : ∀ a ∈ xs, ∀ b ∈ xs, lt a b = (key a).lt (key b)) :
    ∃ ys, sort lt xs = .ok ys ∧ StablySorted key xs ys := by
  have hranked := ranked_of_orderedBy h hS
  have hbefore : ∀ {a b}, a ∈ xs → b ∈ xs → lt a b = .ok ((key a).precedes (key b)) := by
    intro a b ha hb
    rw [hlt a ha b hb, h.lt_eq (hS a ha) (hS b hb), h.precedes_eq (hS a ha) (hS b hb)]
  obtain ⟨ys, hok, hasc, hkeeps⟩ := sort_stable hranked hbefore xs fun x hx => hx
  refine ⟨ys, hok, hkeeps.perm, hasc, ?_⟩
  intro k
  by_cases hk : ∃ x ∈ xs, k.same (key x) = true
  · obtain ⟨x, hx, hkx⟩ := hk
    have hsame : ∀ y ∈ xs,
        k.same (key y) = tied (fun a b => (key a).precedes (key b)) x y := by
      intro y hy
      rw [tied_eq_same h hS hx hy, Bool.eq_iff_iff, Scalar.same_iff, Scalar.same_iff,
        Scalar.same_iff.mp hkx]
    calc
      ys.filter (fun y => k.same (key y)) =
          ys.filter (tied (fun a b => (key a).precedes (key b)) x) :=
        List.filter_congr fun y hy => hsame y (hkeeps.perm.subset hy)
      _ = xs.filter (tied (fun a b => (key a).precedes (key b)) x) := hkeeps.order x hx
      _ = xs.filter fun y => k.same (key y) :=
        List.filter_congr fun y hy => (hsame y hy).symm
  · have hnone : ∀ x ∈ xs, ¬ k.same (key x) = true := fun x hx hkx => hk ⟨x, hx, hkx⟩
    rw [List.filter_eq_nil_iff.mpr hnone,
      List.filter_eq_nil_iff.mpr fun y hy => hnone y (hkeeps.perm.subset hy)]

end

/-- No comparison is needed for one item. -/
theorem sort_of_length_le {ε : Type} {lt : α → α → Except ε Bool} (h : xs.length ≤ 1) :
    sort lt xs = .ok xs := by
  cases xs with
  | nil => rw [sort, List.length_nil, sortRest.eq_1, mergeAll]
  | cons x rest =>
      obtain rfl : rest = [] := List.length_eq_zero_iff.mp (by simpa using h)
      rw [sort, List.length_singleton, sortRest, headRun, ok_bind]
      dsimp only
      rw [List.take_nil, List.foldlM_nil]
      simp only [List.drop_nil]
      exact mergeAll.eq_2 _ _ _

/-- Keys that can be compared are sorted stably: one key needs no comparison, and others are of one
kind. -/
theorem sort_of_comparable {lt : α → α → Except TypeFault Bool}
    (hfinite : ∀ x ∈ xs, (key x).IsFinite) (hlt : ∀ a ∈ xs, ∀ b ∈ xs, lt a b = (key a).lt (key b))
    (h : Scalar.Comparable (xs.map key)) : ∃ ys, sort lt xs = .ok ys ∧ StablySorted key xs ys := by
  rcases h with hone | htexts | hnumbers
  · rw [List.length_map] at hone
    refine ⟨xs, sort_of_length_le hone, .refl xs, ?_, fun _ => rfl⟩
    rcases xs with _ | ⟨x, _ | ⟨y, rest⟩⟩
    · exact List.Pairwise.nil
    · exact List.pairwise_singleton _ x
    · simp at hone
  · rw [List.forall_mem_map] at htexts
    exact sort_of_orderedBy Scalar.orderedBy_text htexts hlt
  · rw [List.forall_mem_map] at hnumbers
    exact sort_of_orderedBy Scalar.orderedBy_number
      (fun x hx => ⟨hnumbers x hx, hfinite x hx⟩) hlt

/-- A comparison by scalars sorts stably if the keys can be compared, and is refused if not. -/
theorem sortsBy_of_keys {lt : α → α → Except TypeFault Bool} {value : α → Value}
    (hlt : ∀ a b, lt a b = Value.lt (value a) (value b))
    (hkey : ∀ x ∈ xs, value x = .scalar (key x) ∧ (key x).IsFinite) :
    SortsBy key xs ((sort lt xs).mapError Fault.type) := by
  -- A comparison that is answered is one of alike keys, so a sort that succeeds has no others.
  have hjoins : Joins lt fun a b => Value.Alike (value a) (value b) :=
    ⟨fun {a b _} hok => .of_lt ((hlt a b).symm.trans hok), .symm, .trans⟩
  have hkeys : ∀ a ∈ xs, ∀ b ∈ xs, lt a b = (key a).lt (key b) := by
    intro a ha b hb
    rw [hlt, (hkey a ha).1, (hkey b hb).1, Value.lt]
  have hfinite : ∀ x ∈ xs, (key x).IsFinite := fun x hx => (hkey x hx).2
  have honly : ∀ {ys}, sort lt xs = .ok ys → Scalar.Comparable (xs.map key) := fun hok =>
    Value.Alike.comparable (fun x hx => (hkey x hx).1) (hjoins.pairwise_sort hok)
  constructor
  · constructor
    · rintro ⟨ys, hok⟩
      exact honly (mapError_eq_ok.mp hok)
    · intro hcomparable
      obtain ⟨ys, hok, -⟩ := sort_of_comparable hfinite hkeys hcomparable
      exact ⟨ys, mapError_eq_ok.mpr hok⟩
  · intro ys hok
    rw [mapError_eq_ok] at hok
    obtain ⟨zs, hzs, hsorted⟩ := sort_of_comparable hfinite hkeys (honly hok)
    rw [hok] at hzs
    obtain rfl := Except.ok.inj hzs
    exact hsorted
  · intro hnot
    cases hsort : sort lt xs with
    | ok ys => exact absurd (honly hsort) hnot
    | error cause => exact ⟨cause, rfl⟩

/-- Sorting something else by the same keys, and then taking what it stands for. -/
theorem SortsBy.map {us : List β} {result : Except Fault (List β)} (f : β → α)
    (h : SortsBy (fun u => key (f u)) us result) :
    SortsBy key (us.map f) (result.map (List.map f)) := by
  have hkeys : (us.map f).map key = us.map fun u => key (f u) := List.map_map
  constructor
  · rw [hkeys, ← h.succeeds]
    cases result with
    | ok vs => exact iff_of_true ⟨vs.map f, rfl⟩ ⟨vs, rfl⟩
    | error e =>
        refine iff_of_false ?_ ?_
        · rintro ⟨ys, hys⟩
          cases hys
        · rintro ⟨vs, hvs⟩
          cases hvs
  · intro ys hys
    cases result with
    | ok vs =>
        obtain rfl := Except.ok.inj hys
        exact (h.sorted vs rfl).map f
    | error e => cases hys
  · intro hnot
    rw [hkeys] at hnot
    obtain ⟨cause, rfl⟩ := h.refused hnot
    exact ⟨cause, rfl⟩

theorem sortsBy_sortByKey {key? : α → Except Fault Value}
    (hkey : ∀ x ∈ xs, key? x = .ok (.scalar (key x)) ∧ (key x).IsFinite) :
    SortsBy key xs (sortByKey key? xs) := by
  let keyed : List (Value × α) := xs.map fun x => (.scalar (key x), x)
  have hkeyed : (xs.mapM fun x => do return (← key? x, x)) = .ok keyed := by
    rw [mapM_eq_ok, List.forall₂_map_right_iff, List.forall₂_same]
    intro x hx
    rw [(hkey x hx).1, ok_bind]
    rfl
  have hsorts : SortsBy (fun u : Value × α => key u.2) keyed
      ((sort (fun a b => Value.lt a.1 b.1) keyed).mapError Fault.type) := by
    refine sortsBy_of_keys (fun _ _ => rfl) ?_
    rw [List.forall_mem_map]
    exact fun x hx => ⟨rfl, (hkey x hx).2⟩
  have hxs : keyed.map Prod.snd = xs := by
    rw [List.map_map]
    exact List.map_id xs
  rw [sortByKey, hkeyed, ok_bind]
  have hmapped := hsorts.map Prod.snd
  rw [hxs] at hmapped
  generalize (sort (fun a b : Value × α => Value.lt a.1 b.1) keyed).mapError Fault.type = result
    at hmapped ⊢
  cases result <;> exact hmapped

/-- Values that are scalars, entries by a component that is one and members by their names: each is
sorted stably if there is one at most, or all the keys are texts, or all are numbers, and is refused
in every other case. -/
theorem sorts_by_scalars :
    (∀ (xs : List Value) (key : Value → Scalar),
      (∀ v ∈ xs, v = .scalar (key v) ∧ (key v).IsFinite) →
        SortsBy key xs (sortValues (.list xs))) ∧
    (∀ (xs : List Value) (key : Value → Scalar) (place : Value),
      (∀ v ∈ xs, v.component place = .ok (.scalar (key v)) ∧ (key v).IsFinite) →
        SortsBy key xs (sortBy (.list xs) (.component place))) ∧
    ∀ (α : Type) (members : Entries α), (∀ e ∈ members, e.1.IsFinite) →
      SortsBy Prod.fst members (ClassModel.sortMembers members) := by
  refine ⟨?_, ?_, ?_⟩
  · intro xs key hkey
    exact sortsBy_of_keys (fun _ _ => rfl) hkey
  · intro xs key place hkey
    exact sortsBy_sortByKey hkey
  · intro α members hfinite
    exact sortsBy_sortByKey fun e he => ⟨rfl, hfinite e he⟩

/-- One in three kinds of number and a smaller one, rows with a null among texts, and two members
under texts. -/
theorem sorts_by_scalars_mixed :
    let ones : List Value :=
      [.int 1, .bool true, .float (.finite false 0x10000000000000 (-52)), .int (-2)]
    let rows : List Value := [.object [("n", .str "b")], .object [("n", .null)],
      .object [("m", .int 3), ("n", .str "a")]]
    let members : Entries Nat := [(.str "b", 1), (.str "a", 2)]
    (∃ ys, sortValues (.list ones) = .ok ys ∧
      StablySorted (fun v => v.scalar?.getD .null) ones ys) ∧
    (∃ cause, sortBy (.list rows) (.component (.str "n")) = .error (.type cause)) ∧
    ∃ ys, ClassModel.sortMembers members = .ok ys ∧ StablySorted Prod.fst members ys := by
  intro ones rows members
  let name (v : Value) : Scalar := ((v.component (.str "n")).toOption.bind Value.scalar?).getD .null
  have hnormal : (Binary64.finite false 0x10000000000000 (-52)).IsNormal := by
    rw [Binary64.IsNormal]
    decide
  have hones : ∀ v ∈ ones,
      v = .scalar (v.scalar?.getD .null) ∧ (v.scalar?.getD .null).IsFinite := by
    simp only [ones, List.forall_mem_cons]
    exact ⟨⟨rfl, trivial⟩, ⟨rfl, trivial⟩, ⟨rfl, hnormal, trivial⟩, ⟨rfl, trivial⟩,
      List.forall_mem_nil _⟩
  have hrows : ∀ v ∈ rows, v.component (.str "n") = .ok (.scalar (name v)) ∧
      (name v).IsFinite := by
    simp only [rows, List.forall_mem_cons]
    exact ⟨⟨rfl, trivial⟩, ⟨rfl, trivial⟩, ⟨rfl, trivial⟩, List.forall_mem_nil _⟩
  have hmembers : ∀ e ∈ members, e.1.IsFinite := by
    simp only [members, List.forall_mem_cons]
    exact ⟨trivial, trivial, List.forall_mem_nil _⟩
  obtain ⟨byValue, byComponent, byName⟩ := sorts_by_scalars
  have hvalues := byValue ones _ hones
  have hnames := byName Nat members hmembers
  obtain ⟨ys, hys⟩ := hvalues.succeeds.mpr (by decide)
  obtain ⟨zs, hzs⟩ := hnames.succeeds.mpr (by decide)
  have hrefused := (byComponent rows name (.str "n") hrows).refused (by decide)
  exact ⟨⟨ys, hys, hvalues.sorted ys hys⟩, hrefused, zs, hzs, hnames.sorted zs hzs⟩

end Sorting

end TypeStencil
