import Mathlib.Algebra.Group.Nat.Defs
import TypeStencil.Proofs.Template.Lines
import TypeStencil.Proofs.Template.Trees

/-!
The programs of the templates that come with the library. Those for members are the same whatever
the size of an indentation is. That for a class holds the line of its constructor, already moved to
the right, so there is no such program for sizes that make this line too wide.
-/
namespace TypeStencil.Template.Packaged

variable {indentSize : Value}

theorem property_check (indentSize : Value) (file : String) :
    Program.check indentSize file propertyTree = .ok () :=
  Program.check_of_isPlain none (fun _ h => absurd h (Option.not_mem_none _)) file
    (by decide +kernel)

theorem function_check (indentSize : Value) (file : String) :
    Program.check indentSize file functionTree = .ok () :=
  Program.check_of_isPlain none (fun _ h => absurd h (Option.not_mem_none _)) file
    (by decide +kernel)

/-- How far the class template can move lines to the right. The line with the constructor has 111
other columns, so that it then just fits into a program. -/
def widest : Nat := Program.columnLimit - 112

theorem classTree_isPlain : Program.isPlain (some widest) classTree = true := by
  decide +kernel

theorem class_check
    (h : ∀ count, Datum.repeatCount (.value indentSize) = .ok count → count ≤ widest)
    (file : String) : Program.check indentSize file classTree = .ok () := by
  refine Program.check_of_isPlain (some widest) ?_ file classTree_isPlain
  rintro _ ⟨⟩
  exact h

example : widest = 2 ^ 31 - 113 := by decide

theorem constructor_columns (count : Nat) :
    columns (Text.quoted (indentedLine count constructorLine ++ "\n")).toList = count + 97 := by
  have hblank : Text.isBlankLine constructorLine.toList = false := by decide +kernel
  have htext : (indentedLine count constructorLine ++ "\n").toList =
      List.replicate count ' ' ++ (constructorLine ++ "\n").toList := by
    simp only [indentedLine, hblank, Bool.false_eq_true, if_false, String.toList_append,
      String.toList_ofList, List.append_assoc]
  have hunquoted : ∀ quote, quote ≠ ' ' → quote ∉ (constructorLine ++ "\n").toList →
      quote ∉ (indentedLine count constructorLine ++ "\n").toList := by
    intro quote hspace hquote
    rw [htext, List.mem_append, not_or]
    exact ⟨fun h => hspace (List.eq_of_mem_replicate h), hquote⟩
  have hcolumns : innerColumns (constructorLine ++ "\n").toList = 95 := by decide +kernel
  rw [columns_quoted_eq (hunquoted '\'' (by decide) (by decide +kernel))
    (hunquoted '"' (by decide) (by decide +kernel)), htext, innerColumns_append,
    innerColumns_spaces, hcolumns]
  omega

section

variable {count : Nat} (hcount : Datum.repeatCount (.value indentSize) = .ok count)

include hcount

/-- The line of the class program that prints the constructor. -/
theorem constructor_mem_lines :
    ⟨2, 0, none, some (indentedLine count constructorLine ++ "\n")⟩ ∈
      Program.lines indentSize classTree := by
  have htext : (Expr.filtered (.const (.str constructorLine)) "indent" []).text? indentSize =
      some (indentedLine count constructorLine) := by
    rw [Expr.text?_indented (by decide +kernel), hcount]
    rfl
  have hnode : functionsTree ∈ classTree := by simp [classTree]
  refine Program.mem_lines fun set looked => Program.mem_linesOfNodes hnode ?_ none
  refine Program.mem_lines_condition ?_
  have hnewline : String.ofList (ended [""]).toList = "\n" := by decide +kernel
  simp only [onlyIf, indented, lit, each, linesOfNodes, htext, hnewline, Option.getD_none,
    Option.getD_some, String.empty_append]
  -- The text is printed where the loop over the functions begins.
  refine List.mem_append_right _ (List.mem_append_left _ (List.mem_append_left _ ?_))
  exact List.mem_singleton_self _

/-- Without room for the constructor no class is printed, not even one without a constructor. -/
theorem class_check_of_wide (h : widest < count) (file : String) :
    ∃ problem line, Program.check indentSize file classTree =
      .error (.template (.program problem file line)) := by
  have hnodes : checkNodes indentSize false classTree = .ok () := checkNodes_ok fun node hnode =>
    (Program.plain_of_isPlain classTree_isPlain node hnode).check_ok false
  refine Program.check_of_wide file hnodes (constructor_mem_lines hcount) ?_
  have hword : columns "yield ".toList = 6 := rfl
  simp only [Line.width, constructor_columns, hword, Program.columnLimit]
  simp only [widest, Program.columnLimit] at h
  omega

end

/-- A number that something can be repeated with. -/
theorem repeatCount_of_lt {n : Nat} (h : n < 2 ^ 63) :
    Datum.repeatCount (.value (.int n)) = .ok n := by
  have hsized : Value.isIndexSized n = true := by
    simp only [Value.isIndexSized, Bool.and_eq_true, decide_eq_true_eq]
    omega
  simp only [Datum.repeatCount, Value.index?, hsized, if_true, Int.toNat_natCast]

theorem repeatCount_of_le {n : Nat} (h : 2 ^ 63 ≤ n) :
    Datum.repeatCount (.value (.int n)) = .error .wideCount := by
  have hsized : ¬ Value.isIndexSized n = true := by
    simp only [Value.isIndexSized, Bool.and_eq_true, decide_eq_true_eq]
    omega
  simp only [Datum.repeatCount, Value.index?, if_neg hsized]

/-- The class template is a program if its constructor fits into a line, and also if it is not moved
beforehand because nothing can be repeated so often. -/
theorem class_check_of_size {n : Nat} (h : n ≤ widest ∨ 2 ^ 63 ≤ n) :
    Program.check (.int n) className classTree = .ok () := by
  refine class_check (fun count hcount => ?_) className
  rcases h with h | h
  · rw [repeatCount_of_lt (by simp only [widest, Program.columnLimit] at h; omega)] at hcount
    cases hcount
    exact h
  · rw [repeatCount_of_le h] at hcount
    cases hcount

end TypeStencil.Template.Packaged
