import TypeStencil.Proofs.Sequencing
import TypeStencil.Proofs.Text.Lines
import TypeStencil.Template.Program

/-!
How wide the lines of a program are that print known texts. Inside of quotes a character takes the
columns of its escape, so the columns of texts that are put together add up.
-/
namespace TypeStencil

open Template

/-- A line moved to the right; a line of white space only becomes empty. -/
def indentedLine (count : Nat) (line : String) : String :=
  if Text.isBlankLine line.toList then "" else String.ofList (List.replicate count ' ') ++ line

theorem run_indent {v : Value} {count : Nat}
    (hcount : Datum.repeatCount (.value v) = .ok count) {line : String}
    (h : '\n' ∉ line.toList) :
    Filter.run .indent v (.value (.str line)) none = .ok (indentedLine count line) := by
  have hline : Filter.indentText count line.toList = Filter.indentLine count line.toList := by
    rw [Filter.indentText, Text.splitAt_of_not_mem h]
    rfl
  simp only [Filter.run, hcount, ok_bind, Filter.onText, Datum.text, Value.text, Scalar.text, hline,
    Filter.indentLine, indentedLine]
  split
  · rfl
  · refine congrArg Except.ok ?_
    rw [String.ofList_append, String.ofList_toList]

theorem Text.quoteFor_eq (s : List Char) : quoteFor s = '\'' ∨ quoteFor s = '"' := by
  rw [quoteFor]
  split
  · exact .inr rfl
  · exact .inl rfl

/-- A character that is no quote is written alike in either quotes. -/
theorem Text.escapeChar_eq {c : Char} (hsingle : c ≠ '\'') (hdouble : c ≠ '"') :
    escapeChar '"' c = escapeChar '\'' c := by
  simp only [escapeChar, hsingle, hdouble, false_or]

namespace Template

theorem foldl_columns (s : List Char) (count : Nat) :
    s.foldl (fun count c => count + c.utf8Size) count = count + columns s := by
  induction s generalizing count with
  | nil => rfl
  | cons c rest ih =>
      rw [columns, List.foldl_cons, List.foldl_cons, ih, ih, Nat.zero_add, Nat.add_assoc]

theorem columns_append (s t : List Char) : columns (s ++ t) = columns s + columns t := by
  rw [columns, List.foldl_append, foldl_columns, ← columns]

/-- The columns of a character in quotes, whichever quotes these are. -/
def innerWidth (c : Char) : Nat :=
  max (columns (Text.escapeChar '\'' c)) (columns (Text.escapeChar '"' c))

/-- The columns of a text in quotes, whichever quotes these are. -/
def innerColumns : List Char → Nat
  | [] => 0
  | c :: rest => innerWidth c + innerColumns rest

theorem innerColumns_append (s t : List Char) :
    innerColumns (s ++ t) = innerColumns s + innerColumns t := by
  induction s with
  | nil => rw [List.nil_append, innerColumns, Nat.zero_add]
  | cons c rest ih => rw [List.cons_append, innerColumns, innerColumns, ih, Nat.add_assoc]

theorem innerColumns_spaces (n : Nat) : innerColumns (List.replicate n ' ') = n := by
  have hspace : innerWidth ' ' = 1 := by decide
  induction n with
  | zero => rfl
  | succ n ih => rw [List.replicate_succ, innerColumns, hspace, ih, Nat.add_comm]

section

variable {quote : Char} (hquote : quote = '\'' ∨ quote = '"') (s : List Char)

include hquote

theorem columns_escaped_le :
    columns (s.flatMap (Text.escapeChar quote)) ≤ innerColumns s := by
  induction s with
  | nil => exact Nat.le_refl 0
  | cons c rest ih =>
      have hchar : columns (Text.escapeChar quote c) ≤ innerWidth c := by
        rcases hquote with rfl | rfl
        · exact Nat.le_max_left _ _
        · exact Nat.le_max_right _ _
      rw [List.flatMap_cons, columns_append, innerColumns]
      exact Nat.add_le_add hchar ih

theorem columns_escaped_eq {s : List Char} (hsingle : '\'' ∉ s) (hdouble : '"' ∉ s) :
    columns (s.flatMap (Text.escapeChar quote)) = innerColumns s := by
  induction s with
  | nil => rfl
  | cons c rest ih =>
      rw [List.mem_cons, not_or] at hsingle hdouble
      have heq := Text.escapeChar_eq (Ne.symm hsingle.1) (Ne.symm hdouble.1)
      have hchar : columns (Text.escapeChar quote c) = innerWidth c := by
        rw [innerWidth, heq, Nat.max_self]
        rcases hquote with rfl | rfl
        · rfl
        · rw [heq]
      rw [List.flatMap_cons, columns_append, hchar, ih hsingle.2 hdouble.2, innerColumns]

end

theorem columns_quoted (s : String) : columns (Text.quoted s).toList =
    2 + columns (s.toList.flatMap (Text.escapeChar (Text.quoteFor s.toList))) := by
  have hone : columns [Text.quoteFor s.toList] = 1 := by
    rcases Text.quoteFor_eq s.toList with h | h <;> rw [h] <;> rfl
  rw [Text.quoted, String.toList_ofList, ← List.singleton_append, columns_append, columns_append,
    hone]
  omega

theorem columns_quoted_le (s : String) :
    columns (Text.quoted s).toList ≤ 2 + innerColumns s.toList := by
  rw [columns_quoted]
  exact Nat.add_le_add_left (columns_escaped_le (Text.quoteFor_eq _) _) 2

theorem columns_quoted_eq {s : String} (hsingle : '\'' ∉ s.toList) (hdouble : '"' ∉ s.toList) :
    columns (Text.quoted s).toList = 2 + innerColumns s.toList := by
  rw [columns_quoted, columns_escaped_eq (Text.quoteFor_eq _) hsingle hdouble]

theorem innerColumns_indentedLine_le (count : Nat) (line : String) :
    innerColumns (indentedLine count line).toList ≤ count + innerColumns line.toList := by
  rw [indentedLine]
  split
  · exact Nat.zero_le _
  · refine Nat.le_of_eq ?_
    rw [String.toList_append, String.toList_ofList, innerColumns_append, innerColumns_spaces]

end Template

end TypeStencil
