import TypeStencil.Proofs.ClassModel.Calls

/-!
Histories with renderings in them. A rendering leaves the import lines of the members with the
model, but as long as none of these members is replaced they are asked for again at the next
rendering. Every rendering then makes the calls and gives the artifact of a fresh model that is
rendered once.
-/
namespace TypeStencil

namespace UniqueList

variable {l l' : UniqueList} {texts : List String}

/-- Lists of the same texts are sorted alike. -/
theorem Gathers.sortValues_eq (h : l.Gathers texts) (h' : l'.Gathers texts) :
    sortValues (.list l.toList) = sortValues (.list l'.toList) := by
  obtain ⟨sorted, hok, hinc, hmem⟩ := h.exists_sorted
  obtain ⟨sorted', hok', hinc', hmem'⟩ := h'.exists_sorted
  have heq : sorted = sorted' := by
    refine Sorting.eq_of_increasing id (by rwa [List.map_id]) (by rwa [List.map_id]) fun t => ?_
    rw [hmem, hmem']
  rw [hok, hok', heq]

end UniqueList

namespace ClassModel

/-- A step that is no rendering. -/
def Step.registers : Step → Bool
  | .render => false
  | _ => true

/-- No name that a member has before a rendering is given to one after it. -/
def NoneReplaced (history : List Step) : Prop :=
  ∀ before after, history = before ++ .render :: after →
    ((before.filterMap Step.function?).map Prod.fst).Disjoint
        ((after.filterMap Step.function?).map Prod.fst) ∧
      ((before.filterMap Step.property?).map Prod.fst).Disjoint
        ((after.filterMap Step.property?).map Prod.fst)

/-- Names that are given only once are not given again. -/
theorem noneReplaced_of_nodup {history : List Step}
    (hf : ((history.filterMap Step.function?).map Prod.fst).Nodup)
    (hp : ((history.filterMap Step.property?).map Prod.fst).Nodup) : NoneReplaced history := by
  rintro before after rfl
  rw [List.filterMap_append, List.map_append, List.nodup_append] at hf hp
  constructor
  · intro name hbefore hafter
    exact hf.2.2 name hbefore name hafter rfl
  · intro name hbefore hafter
    exact hp.2.2 name hbefore name hafter rfl

/-- What is registered last under a name stays so if the name is not given again. -/
theorem lookup_of_notMem {α : Type} {given more : List (String × α)} {name : String}
    (h : name ∉ more.map Prod.fst) :
    (given ++ more).reverse.lookup name = given.reverse.lookup name := by
  have hnone : more.reverse.lookup name = none := by
    refine List.lookup_eq_none_iff.mpr fun e he => bne_iff_ne.mpr fun heq => h ?_
    exact heq ▸ List.mem_map_of_mem (List.mem_reverse.mp he)
  rw [List.reverse_append, List.lookup_append, hnone, Option.none_or]

/-- A line that a member asks for which is registered last under its name. -/
def Asks (history : List Step) (line : String) : Prop :=
  line ≠ "" ∧ ((∃ name f, lastFunction? history name = some f ∧ .str line ∈ f.imports) ∨
    ∃ name p, lastProperty? history name = some p ∧ p.importName = .str line)

/-- A line that was asked for when an earlier rendering was made. -/
def AskedEarlier (history : List Step) (line : String) : Prop :=
  ∃ before after, history = before ++ .render :: after ∧ Asks before line

/-- Members that are not replaced ask for their lines again. -/
theorem NoneReplaced.asks {history : List Step} (h : NoneReplaced history) {line : String}
    (hasked : AskedEarlier history line) : Asks history line := by
  obtain ⟨before, after, hsplit, hne, hmember⟩ := hasked
  obtain ⟨hf, hp⟩ := h before after hsplit
  refine ⟨hne, ?_⟩
  rcases hmember with ⟨name, f, hlast, hline⟩ | ⟨name, p, hlast, hline⟩
  · refine .inl ⟨name, f, ?_, hline⟩
    have hname := hf (List.mem_map_of_mem (mem_of_last hlast))
    rw [← hlast, lastFunction?, hsplit, List.filterMap_append]
    exact lookup_of_notMem hname
  · refine .inr ⟨name, p, ?_, hline⟩
    have hname := hp (List.mem_map_of_mem (mem_of_last hlast))
    rw [← hlast, lastProperty?, hsplit, List.filterMap_append]
    exact lookup_of_notMem hname

theorem AskedEarlier.snoc {past : List Step} {line : String} (h : AskedEarlier past line)
    (s : Step) : AskedEarlier (past ++ [s]) line := by
  obtain ⟨before, after, rfl, hasked⟩ := h
  exact ⟨before, after ++ [s], by rw [List.append_assoc, List.cons_append], hasked⟩

theorem filterMap_registers {α : Type} (f : Step → Option α) (hf : f .render = none)
    (history : List Step) :
    (history.filter Step.registers).filterMap f = history.filterMap f := by
  rw [List.filterMap_filter]
  refine List.filterMap_congr fun s _ => ?_
  cases s with
  | render => exact hf.symm
  | _ => rfl

/-- Renderings ask for nothing by themselves. -/
theorem asks_registers {history : List Step} {line : String} :
    Asks (history.filter Step.registers) line ↔ Asks history line := by
  rw [Asks, Asks]
  simp only [lastFunction?, lastProperty?, filterMap_registers Step.function? rfl,
    filterMap_registers Step.property? rfl]

section

variable {renderer : Renderer} {templates : TemplateNames} {m m' : ClassModel}

/-- The lines that a model gets when its members are rendered. -/
theorem Follows.mem_asked {ids : Identifiers} {history : List Step} (h : Follows ids history m)
    (hs : ∀ s ∈ history, s.IsNamed) {texts : RenderedMembers}
    (htexts : (m.renderMembers renderer templates).result = .ok texts) :
    ∃ lines : List String, texts.imports = lines.map .str ∧
      ∀ line, line ∈ lines ↔ Asks history line := by
  obtain ⟨functions, properties, hfroster, hproster, hffst, hpfst, -⟩ :=
    renderMembers_calls h.functions h.properties htexts
  have hfunctions : Roster (lastFunction? history) functions := hfroster
  have hproperties : Roster (lastProperty? history) properties := hproster
  have htext := imports_isText_of_rosters hs hfunctions hproperties hffst hpfst
  refine ⟨texts.imports.filterMap Value.str?, (Value.map_str_of_isText htext).symm, fun line => ?_⟩
  rw [Value.mem_filterMap_str, RenderedMembers.mem_imports, hffst, hpfst, Asks]
  simp only [hfunctions.mem_members, hproperties.mem_members]
  grind

/-- A class around its members depends on the import lines only as far as they are in order. -/
theorem renderClass_congr (hsame : m = { m' with imports := m.imports })
    (hsorted : sortValues (.list m.imports.toList) = sortValues (.list m'.imports.toList)) :
    m.renderClass renderer templates = m'.renderClass renderer templates := by
  funext texts
  have hview : m.view texts = m'.view texts := by
    rw [view, view, hsorted, hsame]
    rfl
  rw [renderClass, renderClass, hview, hsame]

/-- Models that differ in their import lines only are rendered alike if these come to the same once
the members are rendered. -/
theorem render_congr (hsame : m = { m' with imports := m.imports })
    (h : ∀ texts, (m'.renderMembers renderer templates).result = .ok texts →
      (m.imports.pushAll texts.imports).2 = (m'.imports.pushAll texts.imports).2 ∧
      sortValues (.list (m.imports.pushAll texts.imports).1.toList) =
        sortValues (.list (m'.imports.pushAll texts.imports).1.toList)) :
    (m.render renderer templates).2 = (m'.render renderer templates).2 := by
  have hmembers : m.renderMembers renderer templates = m'.renderMembers renderer templates := by
    rw [hsame]
    rfl
  rw [render, render, hmembers]
  cases htexts : (m'.renderMembers renderer templates).result with
  | error f => rfl
  | ok texts =>
      obtain ⟨hresult, hsorted⟩ := h texts htexts
      have hadded : (m.addImports texts.imports).1 =
          { (m'.addImports texts.imports).1 with
            imports := (m.addImports texts.imports).1.imports } := by
        rw [hsame]
        rfl
      have hclass : (m.addImports texts.imports).1.renderClass renderer templates =
          (m'.addImports texts.imports).1.renderClass renderer templates :=
        renderClass_congr hadded hsorted
      simp only [addImports] at hclass ⊢
      rw [hclass, hresult]

end

/-- A model after a history with renderings, beside the one after its registrations alone: it has
besides only lines that were asked for earlier. -/
structure Attends (ids : Identifiers) (past : List Step) (m m' : ClassModel) : Prop where
  follows : Follows ids (past.filter Step.registers) m'
  same : m = { m' with imports := m.imports }
  imports : ∃ more : List String,
    m.imports.Gathers ((past.filter Step.registers).flatMap Step.importLines ++ more) ∧
      ∀ line ∈ more, AskedEarlier past line

theorem attends_nil (ids : Identifiers) : Attends ids [] (ofIdentifiers ids) (ofIdentifiers ids) :=
  ⟨follows_nil ids, rfl, [], UniqueList.gathers_empty, fun _ h => absurd h List.not_mem_nil⟩

section

variable (renderer : Renderer) (templates : TemplateNames) {ids : Identifiers} {past : List Step}
  {m m' : ClassModel}

theorem Attends.register (h : Attends ids past m m') {s : Step} (hs : s.IsNamed) :
    Attends ids (past ++ [s]) (m.step renderer templates s).1
      (m'.step renderer templates s).1 := by
  obtain ⟨hfollows, hsame, more, hgathers, hmore⟩ := h
  have hregisters : s.registers = true := by
    cases s with
    | render => exact hs.elim
    | _ => rfl
  have hfilter : (past ++ [s]).filter Step.registers = past.filter Step.registers ++ [s] := by
    rw [List.filter_append, List.filter_singleton, hregisters]
    rfl
  refine ⟨hfilter ▸ hfollows.step renderer templates hs, ?_, more, ?_,
    fun line hline => (hmore line hline).snoc s⟩
  · rw [step_eq renderer templates hs, step_eq renderer templates hs, hsame]
  · rw [step_eq renderer templates hs, hfilter, List.flatMap_append, List.flatMap_singleton]
    refine ((hgathers.pushAll s.importLines).1).congr fun t => ?_
    simp only [List.mem_append]
    tauto

theorem Attends.render (h : Attends ids past m m')
    (hs : ∀ s ∈ past.filter Step.registers, s.IsNamed) :
    Attends ids (past ++ [.render]) (m.render renderer templates).1 m' := by
  obtain ⟨hfollows, hsame, more, hgathers, hmore⟩ := h
  have hfilter : (past ++ [Step.render]).filter Step.registers = past.filter Step.registers := by
    rw [List.filter_append]
    exact List.append_nil _
  have hmembers : m.renderMembers renderer templates = m'.renderMembers renderer templates := by
    rw [hsame]
    rfl
  have hearlier : ∀ line ∈ more, AskedEarlier (past ++ [.render]) line :=
    fun line hline => (hmore line hline).snoc .render
  rw [ClassModel.render, hmembers]
  cases htexts : (m'.renderMembers renderer templates).result with
  | error f => exact ⟨hfilter ▸ hfollows, hsame, more, hfilter ▸ hgathers, hearlier⟩
  | ok texts =>
      obtain ⟨lines, hlines, hmem⟩ := hfollows.mem_asked hs htexts
      refine ⟨hfilter ▸ hfollows, ?_, more ++ lines, ?_, fun line hline => ?_⟩
      · rw [hsame]
        rfl
      · rw [hfilter, ← List.append_assoc]
        simp only [addImports, hlines]
        exact (hgathers.pushAll lines).1
      · rcases List.mem_append.mp hline with hline | hline
        · exact hearlier line hline
        · exact ⟨past, [], rfl, asks_registers.mp ((hmem line).mp hline)⟩

theorem Attends.run {future : List Step} (h : Attends ids past m m')
    (hs : ∀ s ∈ past ++ future, s.registers = true → s.IsNamed) :
    Attends ids (past ++ future) (m.run renderer templates future).1
      (m'.run renderer templates (future.filter Step.registers)).1 := by
  induction future generalizing past m m' with
  | nil => simpa only [ClassModel.run, List.append_nil, List.filter_nil] using h
  | cons s rest ih =>
      have hnext : past ++ s :: rest = (past ++ [s]) ++ rest := by
        rw [List.append_assoc, List.singleton_append]
      rw [hnext] at hs ⊢
      cases hregisters : s.registers with
      | true =>
          have hnamed := hs s (by simp) hregisters
          rw [List.filter_cons_of_pos hregisters]
          exact ih (h.register renderer templates hnamed) hs
      | false =>
          have hrender : s = .render := by
            cases s with
            | render => rfl
            | _ => cases hregisters
          subst hrender
          rw [List.filter_cons_of_neg (by simp [hregisters])]
          refine ih (h.render renderer templates fun s hmem => ?_) hs
          obtain ⟨hmem, hregisters⟩ := List.mem_filter.mp hmem
          exact hs s (by simp [hmem]) hregisters

/-- A model is rendered like the one that its registrations alone leave, if no member has been
replaced that a rendering has shown. -/
theorem Attends.render_eq (h : Attends ids past m m')
    (hs : ∀ s ∈ past, s.registers = true → s.IsNamed) (hkept : NoneReplaced past) :
    (m.render renderer templates).2 = (m'.render renderer templates).2 := by
  obtain ⟨hfollows, hsame, more, hgathers, hmore⟩ := h
  refine render_congr hsame fun texts htexts => ?_
  have hnamed : ∀ s ∈ past.filter Step.registers, s.IsNamed := fun s hmem =>
    hs s (List.mem_of_mem_filter hmem) (List.mem_filter.mp hmem).2
  obtain ⟨lines, hlines, hmem⟩ := hfollows.mem_asked hnamed htexts
  obtain ⟨hall, hok⟩ := hgathers.pushAll lines
  obtain ⟨hall', hok'⟩ := hfollows.imports.pushAll lines
  rw [hlines, hok, hok']
  refine ⟨rfl, (hall.congr fun t => ?_).sortValues_eq hall'⟩
  have hasked : t ∈ more → t ∈ lines := fun ht =>
    (hmem t).mpr (asks_registers.mpr (hkept.asks (hmore t ht)))
  simp only [List.mem_append]
  tauto

end

theorem NoneReplaced.snoc_render {history : List Step} (h : NoneReplaced history) :
    NoneReplaced (history ++ [.render]) := by
  intro before after hsplit
  rcases List.eq_nil_or_concat after with rfl | ⟨after, last, rfl⟩
  · exact ⟨List.disjoint_nil_right _, List.disjoint_nil_right _⟩
  · rw [List.concat_eq_append, ← List.cons_append, ← List.append_assoc] at hsplit
    obtain ⟨rfl, rfl⟩ := List.append_inj' hsplit rfl |>.imp_right List.singleton_inj.mp
    have hnone : ∀ {α : Type} (f : Step → Option α), f .render = none →
        (after.concat .render).filterMap f = after.filterMap f := fun f hf => by
      rw [List.concat_eq_append, filterMap_snoc, hf]
      exact List.append_nil _
    rw [hnone Step.function? rfl, hnone Step.property? rfl]
    exact h before after rfl

/-- After a history in which no member is replaced once it was rendered, a rendering makes the calls
and gives the artifact of a fresh model with the registrations alone, however often and with
whatever success the model was rendered before; and so does the rendering after it. -/
theorem render_after_renderings (renderer : Renderer) (templates : TemplateNames)
    (ids : Identifiers) {history : List Step}
    (hs : ∀ s ∈ history, s.registers = true → s.IsNamed) (hkept : NoneReplaced history) :
    let m := ((ofIdentifiers ids).run renderer templates history).1
    let fresh :=
      ((ofIdentifiers ids).run renderer templates (history.filter Step.registers)).1
    (m.render renderer templates).2 = (fresh.render renderer templates).2 ∧
      ((m.render renderer templates).1.render renderer templates).2 =
        (m.render renderer templates).2 := by
  intro m fresh
  have h : Attends ids history m fresh := (attends_nil ids).run renderer templates hs
  have hnamed : ∀ s ∈ history.filter Step.registers, s.IsNamed := fun s hmem =>
    hs s (List.mem_of_mem_filter hmem) (List.mem_filter.mp hmem).2
  have hfirst := h.render_eq renderer templates hs hkept
  have hs' : ∀ s ∈ history ++ [.render], s.registers = true → s.IsNamed := by
    intro s hmem hregisters
    rcases List.mem_append.mp hmem with hmem | hmem
    · exact hs s hmem hregisters
    · rw [List.mem_singleton.mp hmem] at hregisters
      cases hregisters
  have hsecond := (h.render renderer templates hnamed).render_eq renderer templates hs'
    hkept.snoc_render
  exact ⟨hfirst, hsecond.trans hfirst.symm⟩

/-- A property that is rendered first in a class whose template refuses it, and then beside a
function that comes later. -/
theorem render_after_failure :
    let id : Step := .property (.ofFunction fun
      | .propertyName => .str "id"
      | .value => .str "string"
      | .importName => .str "import a;"
      | f => f.default)
    let getUser : Step := .function (.ofFunction fun
      | .functionName => .str "getUser"
      | .httpMethod => .str "get"
      | .routePath => .str "/users"
      | .imports => .list [.str "import b;"]
      | f => f.default)
    let history : List Step := [id, .render, .imports [.str "import c;"], getUser]
    let renderer : Renderer := fun template context =>
      if context.lookup "is_interface" matches some (.bool true) then .error .wideIndex
      else .ok template.text
    let templates : TemplateNames := ⟨.str "function", .str "property", .str "class"⟩
    let users := ofIdentifiers ⟨"Users", "users"⟩
    let m := (users.run renderer templates history).1
    let fresh := (users.run renderer templates (history.filter Step.registers)).1
    ((users.run renderer templates [id]).1.render renderer templates).2.result =
        .error .wideIndex ∧
      (m.render renderer templates).2 = (fresh.render renderer templates).2 ∧
      (m.render renderer templates).2.result = .ok ⟨"Users", "users", "class"⟩ := by
  intro id getUser history renderer templates users m fresh
  have hfresh : (fresh.render renderer templates).2.result = .ok ⟨"Users", "users", "class"⟩ :=
    toOption_eq_some.mp (by decide +kernel +revert)
  have hproperty : id.IsNamed := by
    refine ⟨rfl, ?_⟩
    rintro _ ⟨⟩ -
    rfl
  have hfunction : getUser.IsNamed := by
    refine ⟨rfl, ?_⟩
    rintro _ ⟨⟩ v hv -
    obtain rfl := List.mem_singleton.mp hv
    rfl
  have himports : (Step.imports [.str "import c;"]).IsNamed := by
    intro v hv
    obtain rfl := List.mem_singleton.mp hv
    rfl
  have hs : ∀ s ∈ history, s.registers = true → s.IsNamed := by
    simp only [history, List.forall_mem_cons]
    exact ⟨fun _ => hproperty, fun h => absurd h Bool.false_ne_true, fun _ => himports,
      fun _ => hfunction, fun _ h => absurd h List.not_mem_nil⟩
  have hkept : NoneReplaced history := noneReplaced_of_nodup (by decide) (by decide)
  have hsame : (m.render renderer templates).2 = (fresh.render renderer templates).2 :=
    (render_after_renderings renderer templates ⟨"Users", "users"⟩ hs hkept).1
  exact ⟨by with_unfolding_all rfl, hsame, hsame ▸ hfresh⟩

end ClassModel

end TypeStencil
