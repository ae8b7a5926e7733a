import TypeStencil.Proofs.ClassModel.Content
import TypeStencil.Proofs.Document.Building

/-!
Class entries made of texts. What such an entry prints is settled by its description, by the last
member under each name, and by which import lines there are.
-/
namespace TypeStencil

namespace Entries

variable {α : Type}

/-- The entries whose names are texts. -/
def texts (entries : Entries α) : List (String × α) :=
  entries.filterMap fun e =>
    match e.1 with
    | .str name => some (name, e.2)
    | _ => none

theorem mem_texts {entries : Entries α} {name : String} {x : α} :
    (name, x) ∈ entries.texts ↔ (.str name, x) ∈ entries := by
  rw [texts, List.mem_filterMap]
  constructor
  · rintro ⟨⟨first, y⟩, hmem, hsome⟩
    cases first with
    | str s =>
        cases hsome
        exact hmem
    | _ => cases hsome
  · exact fun hmem => ⟨_, hmem, rfl⟩

theorem named_texts {entries : Entries α} (h : ∀ e ∈ entries, ∃ name, e.1 = .str name) :
    named entries.texts = entries := by
  induction entries with
  | nil => rfl
  | cons e rest ih =>
      obtain ⟨⟨name, hname⟩, hrest⟩ := List.forall_mem_cons.mp h
      obtain ⟨first, x⟩ := e
      obtain rfl : first = .str name := hname
      exact congrArg ((Scalar.str name, x) :: ·) (ih hrest)

end Entries

namespace Document

/-- Parts whose names and import lines are texts. -/
structure Parts.AreTexts (parts : Parts) : Prop where
  imports : ∀ v ∈ parts.imports, v.isText = true
  functions : ∀ e ∈ parts.functions, (∃ name, e.1 = .str name) ∧ e.2.AsksTexts
  properties : ∀ e ∈ parts.properties, (∃ name, e.1 = .str name) ∧ e.2.AsksText

/-- The function that comes last under a name. -/
def Parts.function? (parts : Parts) (name : String) : Option (FunctionView × Set String) :=
  (parts.functions.texts.reverse.lookup name).map RegisteredFunction.part

/-- The property that comes last under a name. -/
def Parts.property? (parts : Parts) (name : String) : Option (PropertyView × Set String) :=
  (parts.properties.texts.reverse.lookup name).map RegisteredProperty.part

def Parts.importLines (parts : Parts) : Set String :=
  {line | .str line ∈ parts.imports}

open ClassModel

/-- The members that stand last under their names ask for import lines that are texts. -/
theorem Parts.AreTexts.askedLines_isText {parts : Parts} (h : parts.AreTexts)
    {functions : List (String × RegisteredFunction)}
    {properties : List (String × RegisteredProperty)}
    (hf : Roster (fun name => parts.functions.texts.reverse.lookup name) functions)
    (hp : Roster (fun name => parts.properties.texts.reverse.lookup name) properties) :
    ∀ v ∈ askedLines (functions.map Prod.snd) (properties.map Prod.snd), v.isText = true := by
  refine ClassModel.askedLines_isText (fun f hmem => ?_) fun p hmem => ?_
  · obtain ⟨name, hlast⟩ := hf.mem_members.mp hmem
    exact (h.functions _ (Entries.mem_texts.mp (mem_of_last hlast))).2
  · obtain ⟨name, hlast⟩ := hp.mem_members.mp hmem
    exact (h.properties _ (Entries.mem_texts.mp (mem_of_last hlast))).2

/-- A model that is put together of texts prints a content, which its parts settle. -/
theorem Parts.AreTexts.exists_content {parts : Parts} (h : parts.AreTexts)
    (identifiers : Identifiers) :
    ∃ c : Content, c.identifiers = identifiers ∧ c.description = parts.lines ∧
      c.Fits parts.function? parts.property? parts.importLines ∧
      (parts.model identifiers).isInterface = c.functions.isEmpty ∧
      (parts.model identifiers).properties.isEmpty = c.properties.isEmpty ∧
      ∀ render templates,
        ((parts.model identifiers).render render templates).2.result =
          c.print render templates := by
  have hfheld := Entries.enrols_nil.update parts.functions.texts
  have hpheld := Entries.enrols_nil.update parts.properties.texts
  rw [Entries.named_texts fun e he => (h.functions e he).1, List.nil_append] at hfheld
  rw [Entries.named_texts fun e he => (h.properties e he).1, List.nil_append] at hpheld
  obtain ⟨functions, hfsorted, hf⟩ := sortMembers_roster hfheld
  obtain ⟨properties, hpsorted, hp⟩ := sortMembers_roster hpheld
  have hgathers := (UniqueList.gathers_empty.pushAll (parts.imports.filterMap Value.str?)).1
  rw [Value.map_str_of_isText h.imports, List.nil_append] at hgathers
  obtain ⟨hheld, hpushed⟩ := hgathers.pushAll
    ((askedLines (functions.map Prod.snd) (properties.map Prod.snd)).filterMap Value.str?)
  rw [Value.map_str_of_isText (h.askedLines_isText hf hp)] at hheld hpushed
  obtain ⟨imports, hsorted, hinc, hmem⟩ := hheld.exists_sorted
  let c : Content := ⟨identifiers, parts.lines, imports, functions.map fun f => f.2.view,
    properties.map fun p => p.2.view⟩
  have hshows : (parts.model identifiers).Shows c functions properties :=
    ⟨rfl, rfl, hf.isEmpty_eq hfheld, hfsorted, hpsorted, rfl, rfl⟩
  refine ⟨c, rfl, rfl, ⟨⟨_, _, hf.map _, hp.map _, ?_, ?_, fun line => ?_⟩, hinc⟩, ?_, ?_,
    fun render templates => hshows.render_result (Prod.ext rfl hpushed) hsorted⟩
  · rw [List.map_map]
    rfl
  · rw [List.map_map]
    rfl
  · rw [hmem, List.mem_append, Value.mem_filterMap_str, Value.mem_filterMap_str,
      mem_askedLines]
    simp only [List.mem_map, exists_exists_and_eq_and]
    rfl
  · rw [hshows.isInterface, List.isEmpty_map]
  · rw [List.isEmpty_map]
    exact hp.isEmpty_eq hpheld

end Document

end TypeStencil
