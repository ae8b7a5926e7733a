import TypeStencil.Proofs.ClassModel.Registration

/-!
The template calls of a rendering: those for the functions, those for the properties, both in the
order of their names, and one for the class around them. The order of registration does not matter
to them.
-/
namespace TypeStencil.ClassModel

/-- Members in strictly increasing order of their names, one for each name that has a last one. -/
structure Roster {α : Type} (last? : String → Option α) (members : List (String × α)) : Prop where
  increasing : (members.map Prod.fst).Pairwise (· < ·)
  mem_iff : ∀ name x, (name, x) ∈ members ↔ last? name = some x

/-- There is one list of members for what is registered last under each name. -/
theorem Roster.unique {α : Type} {last? last?' : String → Option α}
    {members members' : List (String × α)} (h : Roster last? members)
    (h' : Roster last?' members') (heq : ∀ name, last? name = last?' name) :
    members = members' := by
  refine Sorting.eq_of_increasing Prod.fst h.increasing h'.increasing ?_
  rintro ⟨name, x⟩
  rw [h.mem_iff, h'.mem_iff, heq]

theorem Roster.mem_members {α : Type} {last? : String → Option α} {members : List (String × α)}
    (h : Roster last? members) {x : α} :
    x ∈ members.map Prod.snd ↔ ∃ name, last? name = some x := by
  simp only [List.mem_map, Prod.exists, exists_eq_right, h.mem_iff]

theorem Roster.isEmpty_eq {α : Type} {entries : Entries α} {given members : List (String × α)}
    (h : entries.Enrols given) (hr : Roster (fun name => given.reverse.lookup name) members) :
    entries.isEmpty = members.isEmpty := by
  obtain ⟨held, rfl, -, hmem⟩ := h
  rw [Entries.named, List.isEmpty_map, Bool.eq_iff_iff, List.isEmpty_iff, List.isEmpty_iff,
    List.eq_nil_iff_forall_not_mem, List.eq_nil_iff_forall_not_mem]
  constructor
  · rintro hnil ⟨name, x⟩ hx
    exact hnil (name, x) ((hmem name x).mpr ((hr.mem_iff name x).mp hx))
  · rintro hnil ⟨name, x⟩ hx
    exact hnil (name, x) ((hr.mem_iff name x).mpr ((hmem name x).mp hx))

theorem sortMembers_roster {α : Type} {entries : Entries α} {given : List (String × α)}
    (h : entries.Enrols given) :
    ∃ members, sortMembers entries = .ok (Entries.named members) ∧
      Roster (fun name => given.reverse.lookup name) members := by
  obtain ⟨members, rfl, hn, hmem⟩ := h
  obtain ⟨sorted, hok, hperm, hinc⟩ := sortByKey_named hn
  exact ⟨sorted, hok, hinc, fun name x => hperm.mem_iff.trans (hmem name x)⟩

section

variable (render : Renderer) (template : Value)

theorem result_renderTemplate (context : Context) :
    (renderTemplate render template context).result = render template context := rfl

theorem calls_renderTemplate (context : Context) :
    (renderTemplate render template context).calls = [(template, context)] := rfl

/-- The calls for some members, whose texts are the answers. -/
theorem mapM_renderTemplate {α β : Type} (keep : α → β) (context : α → Context) (xs : List α)
    {ys : List (β × String)}
    (h : (xs.mapM fun x => do
      return (keep x, ← renderTemplate render template (context x))).result = .ok ys) :
    ys.map Prod.fst = xs.map keep ∧
      xs.map (fun x => render template (context x)) = (ys.map Prod.snd).map .ok ∧
      (xs.mapM fun x => do
        return (keep x, ← renderTemplate render template (context x))).calls =
          xs.map fun x => (template, context x) := by
  induction xs generalizing ys with
  | nil =>
      cases h
      exact ⟨rfl, rfl, rfl⟩
  | cons x xs ih =>
      rw [List.mapM_cons] at h ⊢
      obtain ⟨y, hy, h⟩ := Traced.bind_eq_ok.mp h
      obtain ⟨rest, hrest, h⟩ := Traced.bind_eq_ok.mp h
      obtain ⟨text, htext, hy'⟩ := Traced.bind_eq_ok.mp hy
      cases h
      cases hy'
      obtain ⟨hfst, hsnd, hcalls⟩ := ih hrest
      refine ⟨?_, ?_, ?_⟩
      · rw [List.map_cons, List.map_cons, hfst]
      · rw [List.map_cons, hsnd]
        exact congrArg (· :: _) htext
      · rw [Traced.calls_bind hy, Traced.calls_bind hrest, Traced.calls_bind htext, hcalls,
          calls_renderTemplate, Traced.calls_pure, Traced.calls_pure, List.append_nil,
          List.append_nil, List.map_cons, List.singleton_append]

end

section

variable {m : ClassModel} {render : Renderer} {templates : TemplateNames}

/-- The members of a model in order, with their texts and the calls that gave these. -/
theorem renderMembers_calls {functionsGiven : List (String × RegisteredFunction)}
    {propertiesGiven : List (String × RegisteredProperty)}
    (hf : m.functions.Enrols functionsGiven) (hp : m.properties.Enrols propertiesGiven)
    {texts : RenderedMembers} (h : (m.renderMembers render templates).result = .ok texts) :
    ∃ functions properties,
      Roster (fun name => functionsGiven.reverse.lookup name) functions ∧
      Roster (fun name => propertiesGiven.reverse.lookup name) properties ∧
      texts.functions.map Prod.fst = functions.map Prod.snd ∧
      texts.properties.map Prod.fst = properties.map Prod.snd ∧
      functions.map (fun f => render templates.function f.2.view.toContext) =
        (texts.functions.map Prod.snd).map .ok ∧
      properties.map (fun p => render templates.property p.2.view.toContext) =
        (texts.properties.map Prod.snd).map .ok ∧
      (m.renderMembers render templates).calls =
        functions.map (fun f => (templates.function, f.2.view.toContext)) ++
          properties.map fun p => (templates.property, p.2.view.toContext) := by
  obtain ⟨functions, hfok, hfroster⟩ := sortMembers_roster hf
  obtain ⟨properties, hpok, hproster⟩ := sortMembers_roster hp
  simp only [renderMembers, hfok, hpok, Traced.of_ok_bind] at h ⊢
  obtain ⟨functionTexts, hft, h⟩ := Traced.bind_eq_ok.mp h
  obtain ⟨propertyTexts, hpt, h⟩ := Traced.bind_eq_ok.mp h
  cases h
  obtain ⟨hffst, hfsnd, hfcalls⟩ := mapM_renderTemplate _ _ _ _ _ hft
  obtain ⟨hpfst, hpsnd, hpcalls⟩ := mapM_renderTemplate _ _ _ _ _ hpt
  rw [Entries.map_named] at hffst hfsnd hfcalls hpfst hpsnd hpcalls
  refine ⟨functions, properties, hfroster, hproster, hffst, hpfst, hfsnd, hpsnd, ?_⟩
  rw [Traced.calls_bind hft, Traced.calls_bind hpt, hfcalls, hpcalls, Traced.calls_pure,
    List.append_nil]

theorem renderClass_calls {texts : RenderedMembers} {artifact : Artifact}
    (h : (m.renderClass render templates texts).result = .ok artifact) :
    ∃ v, m.view texts = .ok v ∧
      (m.renderClass render templates texts).calls = [(templates.artifact, v.toContext)] := by
  cases hv : m.view texts with
  | error e => simp [renderClass, hv, Traced.of] at h
  | ok v =>
      refine ⟨v, rfl, ?_⟩
      simp only [renderClass, hv, Traced.of_ok_bind] at h ⊢
      obtain ⟨text, htext, h⟩ := Traced.bind_eq_ok.mp h
      obtain ⟨⟨⟩, hlog, -⟩ := Traced.bind_eq_ok.mp h
      rw [Traced.calls_bind htext, Traced.calls_bind hlog, calls_renderTemplate, Traced.calls_log,
        Traced.calls_pure, List.append_nil, List.append_nil]

theorem render_calls {artifact : Artifact}
    (h : (m.render render templates).2.result = .ok artifact) :
    ∃ texts, (m.renderMembers render templates).result = .ok texts ∧
      ((m.addImports texts.imports).1.renderClass render templates texts).result = .ok artifact ∧
      (m.render render templates).2.calls = (m.renderMembers render templates).calls ++
        ((m.addImports texts.imports).1.renderClass render templates texts).calls := by
  cases ht : (m.renderMembers render templates).result with
  | error e =>
      simp only [ClassModel.render, ht] at h
      cases h
  | ok texts =>
      refine ⟨texts, rfl, ?_⟩
      simp only [ClassModel.render, ht] at h ⊢
      obtain ⟨texts', ht', h⟩ := Traced.bind_eq_ok.mp h
      obtain rfl : texts = texts' := by
        rw [ht] at ht'
        cases ht'
        rfl
      obtain ⟨⟨⟩, himports, h⟩ := Traced.bind_eq_ok.mp h
      exact ⟨h, by rw [Traced.calls_bind ht, Traced.calls_bind himports, Traced.calls_ofType,
        List.nil_append]⟩

end

/-- The import lines that some members ask for. -/
def askedLines (functions : List RegisteredFunction) (properties : List RegisteredProperty) :
    List Value :=
  functions.flatMap (fun f => f.imports.filter Value.isPresent) ++
    (properties.map RegisteredProperty.importName).filter Value.isPresent

section

variable {functions : List RegisteredFunction} {properties : List RegisteredProperty}

theorem askedLines_isText (hf : ∀ f ∈ functions, f.AsksTexts)
    (hp : ∀ p ∈ properties, p.AsksText) : ∀ v ∈ askedLines functions properties,
      v.isText = true := by
  intro v hv
  rcases List.mem_append.mp hv with hv | hv
  · obtain ⟨f, hmem, hv⟩ := List.mem_flatMap.mp hv
    obtain ⟨hv, hpresent⟩ := List.mem_filter.mp hv
    exact hf f hmem v hv hpresent
  · obtain ⟨hv, hpresent⟩ := List.mem_filter.mp hv
    obtain ⟨p, hmem, rfl⟩ := List.mem_map.mp hv
    exact hp p hmem hpresent

theorem mem_askedLines (line : String) :
    .str line ∈ askedLines functions properties ↔ line ≠ "" ∧
      ((∃ f ∈ functions, .str line ∈ f.imports) ∨ ∃ p ∈ properties, p.importName = .str line) := by
  simp only [askedLines, List.mem_append, List.mem_flatMap, List.mem_filter, List.mem_map,
    Value.isPresent_str]
  grind

end

namespace RenderedMembers

variable {texts : RenderedMembers}

theorem imports_eq_askedLines :
    texts.imports = askedLines (texts.functions.map Prod.fst) (texts.properties.map Prod.fst) := by
  rw [imports, askedLines, List.flatMap_map, List.map_map]
  rfl

theorem imports_isText (hf : ∀ f ∈ texts.functions.map Prod.fst, f.AsksTexts)
    (hp : ∀ p ∈ texts.properties.map Prod.fst, p.AsksText) :
    ∀ v ∈ texts.imports, v.isText = true := by
  rw [imports_eq_askedLines]
  exact askedLines_isText hf hp

theorem mem_imports (line : String) :
    .str line ∈ texts.imports ↔ line ≠ "" ∧
      ((∃ f ∈ texts.functions.map Prod.fst, .str line ∈ f.imports) ∨
        ∃ p ∈ texts.properties.map Prod.fst, p.importName = .str line) := by
  rw [imports_eq_askedLines, mem_askedLines]

end RenderedMembers

/-- The import lines around some members: those that a history gives, and the non-empty ones that
the members ask for. -/
def IsImported (history : List Step) (functions : List (String × RegisteredFunction))
    (properties : List (String × RegisteredProperty)) (line : String) : Prop :=
  line ∈ history.flatMap Step.importLines ∨ line ≠ "" ∧
    ((∃ f ∈ functions, .str line ∈ f.2.imports) ∨ ∃ p ∈ properties, p.2.importName = .str line)

/-- The template calls of a rendering after a history: one for each function that is registered last
under its name, one for each such property, and one for the class with what was answered. -/
def CallsAfter (render : Renderer) (templates : TemplateNames) (ids : Identifiers)
    (history : List Step) (calls : List (Value × Context)) : Prop :=
  ∃ (functions : List (String × RegisteredFunction))
    (properties : List (String × RegisteredProperty))
    (imports functionTexts propertyTexts : List String),
    Roster (lastFunction? history) functions ∧
    Roster (lastProperty? history) properties ∧
    imports.Pairwise (· < ·) ∧
    (∀ line, line ∈ imports ↔ IsImported history functions properties line) ∧
    functions.map (fun f => render templates.function f.2.view.toContext) =
      functionTexts.map .ok ∧
    properties.map (fun p => render templates.property p.2.view.toContext) =
      propertyTexts.map .ok ∧
    calls =
      functions.map (fun f => (templates.function, f.2.view.toContext)) ++
      properties.map (fun p => (templates.property, p.2.view.toContext)) ++
      [(templates.artifact, [
        ("type_name", .str ids.typeName),
        ("is_interface", .bool functions.isEmpty),
        ("has_imports", .bool !imports.isEmpty),
        ("imports", .strings imports),
        ("has_description", .bool !(history.flatMap Step.lines).isEmpty),
        ("description", .strings (history.flatMap Step.lines)),
        ("has_functions", .bool !functions.isEmpty),
        ("functions", .list (functionTexts.map fun text => .strings (Text.lines text))),
        ("has_properties", .bool !properties.isEmpty),
        ("properties", .list (propertyTexts.map fun text => .strings (Text.lines text)))])]

section

variable {render : Renderer} {templates : TemplateNames} {ids : Identifiers} {history : List Step}

/-- The members that are registered last ask for import lines that are texts. -/
theorem imports_isText_of_rosters (hs : ∀ s ∈ history, s.IsNamed)
    {functions : List (String × RegisteredFunction)}
    {properties : List (String × RegisteredProperty)}
    (hf : Roster (lastFunction? history) functions)
    (hp : Roster (lastProperty? history) properties) {texts : RenderedMembers}
    (hffst : texts.functions.map Prod.fst = functions.map Prod.snd)
    (hpfst : texts.properties.map Prod.fst = properties.map Prod.snd) :
    ∀ v ∈ texts.imports, v.isText = true := by
  refine RenderedMembers.imports_isText (fun f hmem => ?_) fun p hmem => ?_
  · rw [hffst, hf.mem_members] at hmem
    obtain ⟨name, hlast⟩ := hmem
    exact lastFunction?_asksTexts hs hlast
  · rw [hpfst, hp.mem_members] at hmem
    obtain ⟨name, hlast⟩ := hmem
    exact lastProperty?_asksText hs hlast

theorem Follows.calls {m : ClassModel} (h : Follows ids history m)
    (hs : ∀ s ∈ history, s.IsNamed) {artifact : Artifact}
    (hok : (m.render render templates).2.result = .ok artifact) :
    CallsAfter render templates ids history (m.render render templates).2.calls := by
  obtain ⟨hids, hdesc, hgathers, hf, hp⟩ := h
  obtain ⟨texts, htexts, hclass, hcalls⟩ := render_calls hok
  obtain ⟨functions, properties, hfroster, hproster, hffst, hpfst, hfsnd, hpsnd, hmembers⟩ :=
    renderMembers_calls hf hp htexts
  obtain ⟨v, hview, hlast⟩ := renderClass_calls hclass
  have hstr := Value.map_str_of_isText
    (imports_isText_of_rosters hs hfroster hproster hffst hpfst)
  have hpushed := (hgathers.pushAll (texts.imports.filterMap Value.str?)).1
  rw [hstr] at hpushed
  obtain ⟨imports, hsorted, hinc, hlines⟩ := hpushed.exists_sorted
  simp only [view, addImports, hsorted, ok_bind] at hview
  cases hview
  have hfempty : texts.functions.isEmpty = functions.isEmpty := by
    simpa only [List.isEmpty_map] using congrArg List.isEmpty hffst
  have hpempty : texts.properties.isEmpty = properties.isEmpty := by
    simpa only [List.isEmpty_map] using congrArg List.isEmpty hpfst
  refine ⟨functions, properties, imports, _, _, hfroster, hproster, hinc, ?_, hfsnd, hpsnd, ?_⟩
  · intro line
    have hasked := texts.mem_imports line
    simp only [hffst, hpfst, List.mem_map, exists_exists_and_eq_and] at hasked
    rw [hlines, List.mem_append, Value.mem_filterMap_str, hasked, IsImported]
  · rw [hcalls, hmembers, hlast]
    simp only [ClassView.toContext, isInterface, List.isEmpty_map, List.map_map,
      hids, hdesc, hfroster.isEmpty_eq hf, hfempty, hpempty]
    rfl

/-- The calls of two renderings are the same if the histories before them register the same members
last, give the same import lines, and describe the class in the same lines. -/
theorem CallsAfter.unique {other : List Step} {calls calls' : List (Value × Context)}
    (h : CallsAfter render templates ids history calls)
    (h' : CallsAfter render templates ids other calls')
    (hf : ∀ name, lastFunction? history name = lastFunction? other name)
    (hp : ∀ name, lastProperty? history name = lastProperty? other name)
    (hi : ∀ line, line ∈ history.flatMap Step.importLines ↔ line ∈ other.flatMap Step.importLines)
    (hd : history.flatMap Step.lines = other.flatMap Step.lines) : calls = calls' := by
  obtain ⟨functions, properties, imports, functionTexts, propertyTexts, hfr, hpr, hinc, hmem, hft,
    hpt, rfl⟩ := h
  obtain ⟨functions', properties', imports', functionTexts', propertyTexts', hfr', hpr', hinc',
    hmem', hft', hpt', rfl⟩ := h'
  obtain rfl := hfr.unique hfr' hf
  obtain rfl := hpr.unique hpr' hp
  have himports : imports = imports' := by
    refine Sorting.eq_of_increasing id (by rwa [List.map_id]) (by rwa [List.map_id]) fun line => ?_
    rw [hmem, hmem', IsImported, IsImported, hi]
  have hok : Function.Injective (Except.ok : String → Except Fault String) :=
    fun _ _ heq => Except.ok.inj heq
  have hfunctions : functionTexts = functionTexts' :=
    List.map_injective_iff.mpr hok (hft.symm.trans hft')
  have hproperties : propertyTexts = propertyTexts' :=
    List.map_injective_iff.mpr hok (hpt.symm.trans hpt')
  rw [himports, hfunctions, hproperties, hd]

/-- A rendering that succeeds makes the calls that its history asks for. -/
theorem calls_after_registrations (hs : ∀ s ∈ history, s.IsNamed) {artifact : Artifact}
    (hok : (((ofIdentifiers ids).run render templates history).1.render render templates).2.result
      = .ok artifact) :
    CallsAfter render templates ids history
      (((ofIdentifiers ids).run render templates history).1.render render templates).2.calls := by
  have h := (follows_nil ids).run render templates hs
  rw [List.nil_append] at h
  exact h.calls hs hok

/-- A function that is registered twice, around a property, with a renderer that answers with the
name of the template. -/
theorem calls_after_replacement :
    let getUser (line : String) : Step := .function (.ofFunction fun
      | .functionName => .str "getUser"
      | .httpMethod => .str "get"
      | .routePath => .str "/users"
      | .imports => .list [.str line]
      | f => f.default)
    let id : Step := .property (.ofFunction fun
      | .propertyName => .str "id"
      | .value => .str "string"
      | f => f.default)
    let history : List Step := [getUser "import a;", id, .imports [.str "import c;"],
      .description (.str "Users"), getUser "import b;"]
    let render : Renderer := fun template _ => .ok template.text
    let templates : TemplateNames := ⟨.str "function", .str "property", .str "class"⟩
    CallsAfter render templates ⟨"Users", "users"⟩ history
      (((ofIdentifiers ⟨"Users", "users"⟩).run render templates history).1.render
        render templates).2.calls := by
  intro getUser id history render templates
  have hok : (((ofIdentifiers ⟨"Users", "users"⟩).run render templates history).1.render
      render templates).2.result = .ok ⟨"Users", "users", "class"⟩ := by
    with_unfolding_all rfl
  have hfunction : ∀ line, (getUser line).IsNamed := by
    refine fun line => ⟨rfl, ?_⟩
    rintro _ ⟨⟩ v hv -
    obtain rfl := List.mem_singleton.mp hv
    rfl
  have hproperty : id.IsNamed := by
    refine ⟨rfl, ?_⟩
    rintro _ ⟨⟩ ⟨⟩
  have himports : (Step.imports [.str "import c;"]).IsNamed := by
    intro v hv
    obtain rfl := List.mem_singleton.mp hv
    rfl
  refine calls_after_registrations ?_ hok
  simp only [history, List.forall_mem_cons]
  exact ⟨hfunction _, hproperty, himports, trivial, hfunction _, fun _ h => nomatch h⟩

end

end TypeStencil.ClassModel
