import TypeStencil.Display.Listing

/-!
Messages that can be shown. Text is shown whatever it holds, so that only a tag can be in the way,
and none begins in a text in which no opened bracket stands in front of a letter or a sign of a tag.
-/
namespace TypeStencil.Markup

variable {opened : List (List Char)} {pieces : List Piece} {s : List Char}

/-- The pieces can be shown after the tags that are open. -/
def Shows (opened : List (List Char)) (pieces : List Piece) : Prop :=
  ∃ text, shown opened pieces = .ok text

/-- No tag begins in the text. -/
def IsUntagged (s : List Char) : Prop :=
  ∀ before c after, s = before ++ '[' :: c :: after → opensTag c = false

theorem IsUntagged.tail {c : Char} (h : IsUntagged (c :: s)) : IsUntagged s :=
  fun before d after heq => h (c :: before) d after (by rw [heq]; rfl)

theorem isUntagged_of_notMem (h : '[' ∉ s) : IsUntagged s := by
  rintro before c after rfl
  exact absurd (List.mem_append_right before List.mem_cons_self) h

theorem tagBody?_of_untagged (h : IsUntagged ('[' :: s)) : tagBody? s = none := by
  cases s with
  | nil => rfl
  | cons c rest =>
      rw [tagBody?, h [] c rest rfl]
      rfl

theorem Shows.text (h : Shows opened pieces) (s : List Char) :
    Shows opened (.text s :: pieces) := by
  obtain ⟨text, htext⟩ := h
  exact ⟨visible s ++ text, by rw [shown, htext]; rfl⟩

theorem Shows.escape (h : Shows opened pieces) (s : List Char) :
    Shows opened (.escape s :: pieces) := by
  obtain ⟨text, htext⟩ := h
  exact ⟨visible s ++ text, by rw [shown, htext]; rfl⟩

theorem Shows.of_text (h : Shows opened (.text s :: pieces)) : Shows opened pieces := by
  obtain ⟨text, htext⟩ := h
  rw [shown] at htext
  cases hrest : shown opened pieces with
  | ok rest => exact ⟨rest, hrest⟩
  | error f =>
      rw [hrest] at htext
      cases htext

theorem Shows.textThen (h : Shows opened pieces) (s : List Char) :
    Shows opened (textThen s pieces) := by
  unfold Markup.textThen
  split
  · exact h.of_text.text _
  · exact h.text s

theorem shows_of_untagged (slashes position : Nat) (h : IsUntagged s) :
    Shows opened (piecesFrom slashes position s) := by
  induction slashes, position, s using piecesFrom.induct with
  | case1 slashes position =>
      rw [piecesFrom]
      exact Shows.text ⟨[], rfl⟩ _
  | case2 slashes position r ih =>
      rw [piecesFrom, if_pos rfl]
      exact ih h.tail
  | case3 slashes position r body rest htag =>
      rw [tagBody?_of_untagged h] at htag
      cases htag
  | case4 slashes position r htag hslash ih =>
      rw [piecesFrom, if_neg hslash, if_pos rfl]
      split
      · next hsome => cases htag.symm.trans hsome
      · exact (ih h.tail).textThen _
  | case5 slashes position c r hslash hbracket ih =>
      rw [piecesFrom, if_neg hslash, if_neg hbracket]
      exact (ih h.tail).textThen _

/-- Characters in front that begin no tag and no escape are text. -/
theorem shows_append (front : List Char) (hslash : slash ∉ front) (hbracket : '[' ∉ front)
    {position : Nat} (h : Shows opened (piecesFrom 0 (position + front.length) s)) :
    Shows opened (piecesFrom 0 position (front ++ s)) := by
  induction front generalizing position with
  | nil => exact h
  | cons c rest ih =>
      rw [List.mem_cons, not_or] at hslash hbracket
      rw [List.cons_append, piecesFrom, if_neg (Ne.symm hslash.1), if_neg (Ne.symm hbracket.1)]
      refine (ih hslash.2 hbracket.2 ?_).textThen _
      rwa [List.length_cons, Nat.add_comm rest.length, ← Nat.add_assoc] at h

theorem shows_tag (body : List Char) {r rest : List Char} {position : Nat}
    (htag : tagBody? r = some (body, rest))
    (h : Shows opened (.tag body position :: piecesFrom 0 (position + body.length + 2) rest)) :
    Shows opened (piecesFrom 0 position ('[' :: r)) := by
  rw [piecesFrom, if_neg (by decide), if_pos rfl]
  split
  · next hsome =>
      obtain ⟨rfl, rfl⟩ := Prod.mk.inj (Option.some.inj (htag.symm.trans hsome))
      exact h.escape []
  · next hnone => cases htag.symm.trans hnone

theorem Shows.opening {body name : List Char} {c : Char} {r : List Char}
    (hbody : body.takeWhile (· != '=') = c :: r) (hc : c ≠ '/')
    (hname : normalName (c :: r) = .ok name) (h : Shows (name :: opened) pieces)
    (position : Nat) : Shows opened (.tag body position :: pieces) := by
  obtain ⟨text, htext⟩ := h
  refine ⟨text, ?_⟩
  rw [shown.eq_def]
  dsimp only
  rw [hbody]
  split
  · next heq => exact absurd (List.cons.inj heq).1 hc
  · rw [hname]
    exact htext

theorem Shows.closing {body name r : List Char} (hbody : body.takeWhile (· != '=') = '/' :: r)
    (hr : (Text.strip r).isEmpty = false) (hname : normalName r = .ok name)
    (h : Shows opened pieces) (position : Nat) :
    Shows (name :: opened) (.tag body position :: pieces) := by
  obtain ⟨text, htext⟩ := h
  refine ⟨text, ?_⟩
  rw [shown, hbody]
  change (if (Text.strip r).isEmpty then shown opened pieces else _) = _
  rw [hr, if_neg Bool.false_ne_true, hname]
  change (if (name :: opened).contains name then shown ((name :: opened).erase name) pieces
    else _) = _
  rw [if_pos (by simp), List.erase_cons_head]
  exact htext

theorem normalName_red : normalName "red".toList = .ok "red".toList := by rfl

/-- A message behind the red mark of an error is shown if it has no tags of its own. -/
theorem messageLines_error {message : String} (h : IsUntagged message.toList) (width : Nat) :
    ∃ lines, Display.messageLines width ("[red]✗ Error:[/red] " ++ message) = .ok lines := by
  have hmessage : Shows [] (piecesFrom 0 19 (" ".toList ++ message.toList)) :=
    shows_append " ".toList (by decide) (by decide) (shows_of_untagged 0 20 h)
  have hclosing : Shows ["red".toList]
      (piecesFrom 0 13 ('[' :: ("/red]".toList ++ (" ".toList ++ message.toList)))) :=
    shows_tag "/red".toList rfl
      (Shows.closing rfl (by decide) normalName_red hmessage 13)
  have hopening : Shows [] (piecesFrom 0 0 ('[' :: ("red]".toList ++ ("✗ Error:".toList ++
      ('[' :: ("/red]".toList ++ (" ".toList ++ message.toList))))))) :=
    shows_tag "red".toList rfl
      (Shows.opening rfl (by decide) normalName_red
        (shows_append "✗ Error:".toList (by decide) (by decide) hclosing) 0)
  obtain ⟨text, htext⟩ := hopening
  have hmark : "[red]✗ Error:[/red] ".toList = '[' :: ("red]".toList ++
      ("✗ Error:".toList ++ ('[' :: ("/red]".toList ++ " ".toList)))) := by decide
  have hplain : plain ("[red]✗ Error:[/red] " ++ message) = .ok text := by
    rw [plain, Markup.pieces, String.toList_append, hmark]
    simpa only [List.cons_append, List.append_assoc] using htext
  exact ⟨Display.wrap .fold width text, by rw [Display.messageLines, hplain]; rfl⟩

end TypeStencil.Markup
