import TypeStencil.Proofs.Template.Plain

/-!
The lines of programs. Those of a plain template are neither indented nor bracketed too deeply, nor
too wide as long as texts are not moved too far, so that it stands for a program. A template with a
line that is too wide does not.
-/
namespace TypeStencil.Template

/-- A line that is neither indented nor bracketed too deeply, nor too wide, without a problem of its
own. -/
structure Line.Fine (l : Line) : Prop where
  indentation : l.indentation < Program.indentationLimit
  brackets : l.brackets ≤ Program.mostBrackets
  width : l.width < Program.columnLimit
  problem : l.problem = none

/-- A place with room for nodes that are nested so deeply. -/
structure Place.Fits (room : Nat) (p : Place) : Prop where
  indentation : p.indentation + room ≤ Program.room + 1
  loops : p.loops + room ≤ Place.mostLoops

/-- A line at a place can print a text of so many columns. -/
def Place.HasColumns (p : Place) (count : Nat) : Prop :=
  4 * p.indentation + 8 + count < Program.columnLimit

theorem Place.HasColumns.of_le {p : Place} {m n : Nat} (h : p.HasColumns n) (hle : m ≤ n) :
    p.HasColumns m := by
  rw [HasColumns] at h ⊢
  omega

namespace Place.Fits

variable {p : Place} {room brackets : Nat} {indentSize : Value} {e : Expr}

theorem of_succ (h : p.Fits (room + 1)) : p.Fits room :=
  ⟨Nat.le_of_succ_le h.indentation, Nat.le_of_succ_le h.loops⟩

theorem deeper (h : p.Fits (room + 1)) : p.deeper.Fits room := by
  have hindentation := h.indentation
  refine ⟨?_, h.of_succ.loops⟩
  simp only [Place.deeper]
  omega

theorem within (h : p.Fits (room + 1)) (set looked : List String) :
    (p.within 1 set looked).Fits room := by
  have hindentation := h.indentation
  have hloops := h.loops
  constructor <;> simp only [Place.within] <;> omega

theorem indentation_lt (h : p.Fits room) : p.indentation < Program.indentationLimit := by
  have hindentation := h.indentation
  simp only [Program.room] at hindentation
  simp only [Program.indentationLimit]
  omega

theorem line_fine (h : p.Fits room) : p.line.Fine :=
  ⟨h.indentation_lt, Nat.zero_le _, (by decide : 0 < Program.columnLimit), rfl⟩

theorem hasColumns {widest : Nat} {nodes : List Node} (h : p.Fits room)
    (hfit : fitInRow widest room nodes = true) :
    p.HasColumns (rowColumns widest nodes) := by
  have hindentation := h.indentation
  rw [fitInRow, decide_eq_true_eq] at hfit
  rw [HasColumns]
  omega

/-- The text goes between quotes, and these go after a word of six columns. -/
theorem printing_fine (h : p.Fits room) {text? : Option String}
    (hcolumns : ∀ text ∈ text?, p.HasColumns (innerColumns text.toList)) :
    ∀ l ∈ p.printing text?, l.Fine := by
  intro l hl
  obtain ⟨text, htext, rfl⟩ := List.mem_map.mp hl
  have hword : columns "yield ".toList = 6 := rfl
  have hquoted := columns_quoted_le text
  have hwidth := hcolumns text (Option.mem_toList.mp htext)
  rw [HasColumns] at hwidth
  refine ⟨h.indentation_lt, Nat.zero_le _, ?_, rfl⟩
  simp only [Line.width, line, hword]
  omega

theorem lookups_fine (h : p.Fits room) (names : List String) :
    ∀ l ∈ p.lookups names, l.Fine := by
  intro l hl
  obtain ⟨n, -, rfl⟩ := List.mem_map.mp hl
  exact h.line_fine

/-- The bound on loops keeps plain expressions within the bound on brackets. -/
theorem reading_fine (h : p.Fits room) (he : e.isPlain room = true) (hbrackets : brackets ≤ 1) :
    (p.reading indentSize brackets e).Fine := by
  have hdepth : e.depth indentSize p.set ≤ room + 2 := Expr.depth_le he p.set
  have hloops := h.loops
  refine ⟨h.indentation_lt, ?_, (by decide : 0 < Program.columnLimit),
    Expr.repeatedArgument?_of_isPlain he⟩
  simp only [reading, mostLoops, Program.mostBrackets] at hloops ⊢
  omega

theorem loopHead_fine (h : p.Fits (room + 1)) (he : e.isPlain room = true)
    (hbrackets : brackets ≤ 1) : (p.loopHead indentSize brackets e).Fine := by
  have hfree : ¬ mostLoops ≤ p.loops := by
    have hloops := h.loops
    omega
  simp only [loopHead, if_neg hfree]
  exact h.of_succ.reading_fine he hbrackets

end Place.Fits

section

variable {indentSize : Value} {p : Place} {before : Option String} {rest : List Node}

theorem linesOfNodes_condition {test : Expr} {body otherwise : List Node}
    {others : List (Expr × List Node)} :
    linesOfNodes indentSize p before (.condition test body others otherwise :: rest) =
      p.printing before ++ (Node.condition test body others otherwise).lines indentSize p ++
        linesOfNodes indentSize p none rest := rfl

theorem linesOfNodes_loop {target : Target} {source : Expr} {filter : Option Expr}
    {body otherwise : List Node} :
    linesOfNodes indentSize p before (.loop target source filter body otherwise :: rest) =
      p.printing before ++ (Node.loop target source filter body otherwise).lines indentSize p ++
        linesOfNodes indentSize p none rest := rfl

end

section

variable {indentSize : Value} {widest? : Option Nat} {room : Nat} {p : Place} {e : Expr}
  (hwidest : ∀ widest ∈ widest?, ∀ count,
    Datum.repeatCount (.value indentSize) = .ok count → count ≤ widest)

include hwidest

theorem Node.Plain.text?_columns_le (h : (Node.print e).Plain widest? room) {text : String}
    (htext : e.text? indentSize = some text) :
    innerColumns text.toList ≤ e.knownColumns (widest?.getD 0) := by
  cases h with
  | print h hknown =>
      rcases hknown with hopen | ⟨hsome, hindented⟩
      · rw [Expr.text?_of_isOpen hopen] at htext
        cases htext
      · obtain ⟨widest, rfl⟩ := Option.isSome_iff_exists.mp hsome
        exact Expr.text?_columns_le hindented (hwidest widest rfl) htext

/-- Texts in a row go into one line, so what stands `before` fits together with the texts that are
still to come. -/
theorem linesOfNodes_fine {nodes : List Node} (hp : p.Fits room)
    (hplain : ∀ node ∈ nodes, node.Plain widest? room)
    (hlines : ∀ node ∈ nodes, p.HasColumns (node.knownColumns (widest?.getD 0)) →
      ∀ l ∈ node.lines indentSize p, l.Fine) (before : Option String)
    (hcolumns : p.HasColumns (innerColumns (before.getD "").toList +
      rowColumns (widest?.getD 0) nodes)) :
    ∀ l ∈ linesOfNodes indentSize p before nodes, l.Fine := by
  have hbefore : ∀ l ∈ p.printing before, l.Fine := hp.printing_fine fun text htext => by
    cases htext
    exact hcolumns.of_le (Nat.le_add_right _ _)
  induction nodes generalizing before with
  | nil => exact hbefore
  | cons node rest ih =>
      rw [List.forall_mem_cons] at hplain hlines
      rw [rowColumns] at hcolumns
      have hnode := hlines.1 (hcolumns.of_le (by omega))
      -- Where no text is left over, the texts to come fit by themselves.
      have hrest : ∀ l ∈ linesOfNodes indentSize p none rest, l.Fine :=
        ih hplain.2 hlines.2 none (hcolumns.of_le (by
          rw [Option.getD_none, String.toList_empty, innerColumns]
          omega)) fun l hl => absurd hl List.not_mem_nil
      have hmore : ∀ text, innerColumns text.toList ≤ node.knownColumns (widest?.getD 0) →
          ∀ l ∈ linesOfNodes indentSize p (some (before.getD "" ++ text)) rest, l.Fine := by
        intro text htext
        have htogether : p.HasColumns (innerColumns (before.getD "" ++ text).toList +
            rowColumns (widest?.getD 0) rest) := hcolumns.of_le (by
          rw [String.toList_append, innerColumns_append]
          omega)
        refine ih hplain.2 hlines.2 _ htogether (hp.printing_fine fun text' htext' => ?_)
        cases htext'
        exact htogether.of_le (Nat.le_add_right _ _)
      -- All other nodes have lines of their own, after that of the text before them.
      have happart : ∀ l ∈ p.printing before ++ node.lines indentSize p ++
          linesOfNodes indentSize p none rest, l.Fine := by
        intro l hl
        rw [List.mem_append, List.mem_append] at hl
        rcases hl with (hl | hl) | hl
        · exact hbefore l hl
        · exact hnode l hl
        · exact hrest l hl
      intro l hl
      cases node with
      | text s =>
          refine hmore (String.ofList s) (Nat.le_of_eq ?_) l (by rwa [linesOfNodes] at hl)
          rw [String.toList_ofList, Node.knownColumns]
      | print e =>
          rw [linesOfNodes] at hl
          split at hl
          case h_1 text htext => exact hmore text (hplain.1.text?_columns_le hwidest htext) l hl
          case h_2 =>
            exact happart l (by rwa [Node.lines, List.append_assoc, List.singleton_append])
      | condition test body others otherwise =>
          rw [linesOfNodes_condition] at hl
          exact happart l hl
      | loop target source filter body otherwise =>
          rw [linesOfNodes_loop] at hl
          exact happart l hl

/-- The lines of nodes that fit in a row, where no text stands before them. -/
theorem linesOfNodes_none_fine {nodes : List Node} (hp : p.Fits room)
    (hplain : ∀ node ∈ nodes, node.Plain widest? room)
    (hfit : fitInRow (widest?.getD 0) room nodes = true)
    (hlines : ∀ node ∈ nodes, p.HasColumns (node.knownColumns (widest?.getD 0)) →
      ∀ l ∈ node.lines indentSize p, l.Fine) :
    ∀ l ∈ linesOfNodes indentSize p none nodes, l.Fine :=
  linesOfNodes_fine hwidest hp hplain hlines none ((hp.hasColumns hfit).of_le (Nat.le_of_eq (by
    rw [Option.getD_none, String.toList_empty, innerColumns, Nat.zero_add])))

/-- The lines of a plain node are fine where there is room for them. -/
theorem Node.Plain.lines_fine {node : Node} (h : node.Plain widest? room) (hp : p.Fits room)
    (hcolumns : p.HasColumns (node.knownColumns (widest?.getD 0))) :
    ∀ l ∈ node.lines indentSize p, l.Fine := by
  induction h generalizing p with
  | text room s =>
      rw [lines]
      refine hp.printing_fine fun text htext => ?_
      cases htext
      rwa [String.toList_ofList]
  | print h hknown =>
      intro l hl
      rw [lines, List.mem_singleton] at hl
      exact hl ▸ hp.reading_fine h (Nat.le_refl 1)
  | @condition room test body h hfit hbody ih =>
      have hnodes := linesOfNodes_none_fine hwidest hp.deeper hbody hfit fun node hnode =>
        ih node hnode hp.deeper
      intro l hl
      simp only [lines, linesOfBranches, List.isEmpty_nil, if_true, List.append_nil,
        List.mem_cons] at hl
      rcases hl with rfl | rfl | hl
      · exact hp.of_succ.reading_fine h (Nat.zero_le 1)
      · exact hp.deeper.line_fine
      · exact hnodes l hl
  | @loop room x source body hx h hfit hbody ih =>
      have hnodes := fun set looked => linesOfNodes_none_fine hwidest (hp.within set looked) hbody
        hfit fun node hnode => ih node hnode (hp.within set looked)
      intro l hl
      simp only [lines, Option.map_none, Option.getD_none, Option.isSome_none, List.isEmpty_nil,
        if_true, List.nil_append, List.append_nil, List.mem_append, List.mem_cons] at hl
      rcases hl with ((hl | rfl | hl) | rfl | rfl | hl) | hl
      · split at hl
        · exact List.mem_singleton.mp hl ▸ hp.line_fine
        · cases hl
      · exact hp.loopHead_fine h (by split <;> simp)
      · exact (hp.within _ _).lookups_fine _ l hl
      · exact (hp.within _ _).line_fine
      · exact (hp.within _ _).line_fine
      · exact hnodes _ _ l hl
      · simp only [Target.names, List.cons_append, List.isEmpty_cons, Bool.false_eq_true,
          if_false, List.mem_singleton] at hl
        exact hl ▸ hp.line_fine

end

namespace Program

theorem firstProblem?_eq_none {problem? : Line → Option ProgramProblem} {lines : List Line}
    (h : ∀ l ∈ lines, problem? l = none) (n : Nat) : firstProblem? problem? n lines = none := by
  induction lines generalizing n with
  | nil => rfl
  | cons l rest ih =>
      rw [List.forall_mem_cons] at h
      rw [firstProblem?, h.1]
      exact ih h.2 (n + 1)

theorem formProblem?_of_fine {l : Line} (h : l.Fine) : formProblem? l = none := by
  have hwidth := h.width
  rw [formProblem?, if_neg (Nat.not_le.mpr h.indentation), if_neg (Nat.not_lt.mpr h.brackets),
    if_neg (Nat.not_lt.mpr (Nat.le_of_lt hwidth)), if_neg (Nat.ne_of_gt hwidth)]

/-- Whether a template is plain. -/
def isPlain (widest? : Option Nat) (nodes : List Node) : Bool :=
  fitInRow (widest?.getD 0) room nodes && nodes.all (Node.isPlain widest? room)

theorem plain_of_isPlain {widest? : Option Nat} {nodes : List Node}
    (h : isPlain widest? nodes = true) : ∀ node ∈ nodes, node.Plain widest? room := by
  rw [isPlain, Bool.and_eq_true, List.all_eq_true] at h
  exact fun node hnode => Node.plain_of_isPlain room node (h.2 node hnode)

/-- Plain templates stand for a program, as far as lines are not moved too far. -/
theorem check_of_isPlain {indentSize : Value} (widest? : Option Nat)
    (hwidest : ∀ widest ∈ widest?, ∀ count,
      Datum.repeatCount (.value indentSize) = .ok count → count ≤ widest)
    (file : String) {nodes : List Node} (h : isPlain widest? nodes = true) :
    check indentSize file nodes = .ok () := by
  have hplain := plain_of_isPlain h
  rw [isPlain, Bool.and_eq_true] at h
  have htop : ∀ set looked, (Place.mk 1 0 set looked).Fits room := fun set looked => by
    constructor <;> simp only [room, Place.mostLoops] <;> omega
  have hfine : ∀ l ∈ lines indentSize nodes, l.Fine := by
    intro l hl
    rw [lines, List.mem_append, List.mem_cons] at hl
    rcases hl with hl | rfl | hl
    · rw [List.eq_of_mem_replicate hl]
      exact (htop _ _).line_fine
    · exact (htop _ _).line_fine
    · exact linesOfNodes_none_fine hwidest (htop _ _) hplain h.1
        (fun node hnode => (hplain node hnode).lines_fine hwidest (htop _ _)) l hl
  have hproblem : problem? indentSize nodes = none := by
    simp only [problem?, firstProblem?_eq_none fun l hl => formProblem?_of_fine (hfine l hl),
      firstProblem?_eq_none fun l hl => (hfine l hl).problem]
    rfl
  rw [check, checkNodes_ok fun node hnode => (hplain node hnode).check_ok false, ok_bind, hproblem]
  rfl

section

variable {indentSize : Value} {nodes : List Node} {l : Line}

theorem mem_lines_condition {p : Place} {test : Expr} {body otherwise : List Node}
    {others : List (Expr × List Node)} (hl : l ∈ linesOfNodes indentSize p.deeper none body) :
    l ∈ (Node.condition test body others otherwise).lines indentSize p := by
  rw [Node.lines]
  exact List.mem_append_left _ (List.mem_append_left _
    (List.mem_cons_of_mem _ (List.mem_cons_of_mem _ hl)))

/-- The lines of a condition are among those of the nodes that it is one of. -/
theorem mem_linesOfNodes {p : Place} {test : Expr} {body otherwise : List Node}
    {others : List (Expr × List Node)}
    (hnode : Node.condition test body others otherwise ∈ nodes)
    (hl : l ∈ (Node.condition test body others otherwise).lines indentSize p)
    (before : Option String) : l ∈ linesOfNodes indentSize p before nodes := by
  induction nodes generalizing before with
  | nil => cases hnode
  | cons node rest ih =>
      rcases List.mem_cons.mp hnode with rfl | hnode
      · rw [linesOfNodes_condition, List.mem_append, List.mem_append]
        exact .inl (.inr hl)
      have hrest := ih hnode
      cases node with
      | text s =>
          rw [linesOfNodes]
          exact hrest _
      | print e =>
          rw [linesOfNodes]
          split
          · exact hrest _
          · exact List.mem_append_right _ (List.mem_cons_of_mem _ (hrest _))
      | condition test body others otherwise =>
          rw [linesOfNodes_condition]
          exact List.mem_append_right _ (hrest _)
      | loop target source filter body otherwise =>
          rw [linesOfNodes_loop]
          exact List.mem_append_right _ (hrest _)

theorem mem_lines
    (h : ∀ set looked, l ∈ linesOfNodes indentSize ⟨1, 0, set, looked⟩ none nodes) :
    l ∈ lines indentSize nodes :=
  List.mem_append_right _ (List.mem_cons_of_mem _ (h _ _))

theorem firstProblem?_ne_none {problem? : Line → Option ProgramProblem} {lines : List Line}
    (hl : l ∈ lines) (hproblem : problem? l ≠ none) (n : Nat) :
    firstProblem? problem? n lines ≠ none := by
  induction lines generalizing n with
  | nil => cases hl
  | cons first rest ih =>
      rw [firstProblem?]
      cases hfirst : problem? first with
      | some problem => exact Option.some_ne_none _
      | none =>
          refine ih ((List.mem_cons.mp hl).resolve_left ?_) (n + 1)
          rintro rfl
          exact hproblem hfirst

theorem formProblem?_of_wide (h : columnLimit ≤ l.width) : formProblem? l ≠ none := by
  rw [formProblem?]
  split_ifs with hindentation hbrackets hover hequal
  · exact Option.some_ne_none _
  · exact Option.some_ne_none _
  · exact Option.some_ne_none _
  · exact Option.some_ne_none _
  · exact absurd (Nat.lt_of_le_of_ne h hequal) hover

/-- A template with a line that is too wide does not stand for a program. -/
theorem check_of_wide (file : String) (hnodes : checkNodes indentSize false nodes = .ok ())
    (hl : l ∈ lines indentSize nodes) (hwide : columnLimit ≤ l.width) :
    ∃ problem line,
      check indentSize file nodes = .error (.template (.program problem file line)) := by
  obtain ⟨⟨problem, line⟩, hfound⟩ := Option.ne_none_iff_exists'.mp
    (firstProblem?_ne_none hl (formProblem?_of_wide hwide) 1)
  refine ⟨problem, line, ?_⟩
  rw [check, hnodes, ok_bind, problem?]
  simp only [hfound, Option.orElse_some]
  rfl

end

end Program

end TypeStencil.Template
