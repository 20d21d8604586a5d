import Casebook.Json.Reader
import Casebook.Json.Writer
import Casebook.Proofs.Text.Half
import Mathlib

/-!
# Strings in JSON

A text without halves of surrogate pairs is read from the string that is written for it, whatever
follows the string. Main statement: `readString_written`.
-/

namespace Casebook.Json

/-! ## Reading point by point -/

section
variable {opening rest after : List Char} {c letter : Char} {p : Point}

theorem readString_close (opening rest : List Char) :
    readString opening ('"' :: rest) = .ok ([], rest) := by
  rw [readString]

theorem readString_plain (hquote : c ≠ '"') (hback : c ≠ '\\') (hcontrol : ¬ c.toNat < 32) :
    readString opening (c :: rest) =
      (readString opening rest).map fun r => (.char c :: r.1, r.2) := by
  rw [readString]
  · rw [if_neg hcontrol]
    cases readString opening rest with
    | ok r => rfl
    | error stop => rfl
  · exact hquote
  · intro heq
    exact absurd heq hback
  · intro letter more heq
    exact absurd heq hback

theorem readString_escape (h : readEscape letter rest = .ok (p, after)) :
    readString opening ('\\' :: letter :: rest) =
      (readString opening after).map fun r => (p :: r.1, r.2) := by
  rw [readString]
  split
  · next stop hstop =>
    rw [h] at hstop
    cases hstop
  · next q more hmore =>
    rw [h] at hmore
    obtain ⟨rfl, rfl⟩ := Prod.mk.inj (Except.ok.inj hmore)
    cases readString opening after with
    | ok r => rfl
    | error stop => rfl

/-- A letter escape is read as the character that it stands for. -/
theorem readEscape_letter (hletter : letterEscape? letter = some c) :
    readEscape letter rest = .ok (.char c, rest) := by
  have hu : letter ≠ 'u' := by
    rintro rfl
    cases hletter
  unfold readEscape
  rw [if_neg hu, hletter]

/-- A control is read from its four digits, if anything follows them. -/
theorem readEscape_control (hcontrol : c.toNat < 32) (hrest : rest ≠ []) :
    readEscape 'u' (Text.hex 4 c.toNat ++ rest) = .ok (.char c, rest) := by
  have hdigits : ∀ n < 32, ∃ a b d e, Text.hex 4 n = [a, b, d, e] ∧
      Text.readHex? [a, b, d, e] = some n ∧ Point.ofCode n = .char (Char.ofNat n) := by
    intro n hn
    interval_cases n <;> exact ⟨_, _, _, _, rfl, rfl, rfl⟩
  obtain ⟨a, b, d, e, hhex, hread, hcode⟩ := hdigits _ hcontrol
  obtain ⟨first, more, rfl⟩ := List.exists_cons_of_ne_nil hrest
  have hfour : fourDigits (Text.hex 4 c.toNat ++ first :: more) = some (c.toNat, first :: more) := by
    rw [hhex]
    show (Text.readHex? [a, b, d, e]).map _ = _
    rw [hread]
    rfl
  have hchar : Char.ofNat c.toNat = c := Char.ofNat_toNat c
  unfold readEscape
  rw [if_pos rfl, hfour]
  dsimp only
  rw [hcode, hchar]

end

/-! ## Reading what is written -/

/-- A character is read from what is written for it. -/
theorem readString_escapeChar (opening : List Char) (c : Char) {rest : List Char}
    (hrest : rest ≠ []) :
    readString opening (escapeChar c ++ rest) =
      (readString opening rest).map fun r => (.char c :: r.1, r.2) := by
  unfold escapeChar
  split_ifs with hquote hback h8 hc hn hr ht hcontrol
  · subst hquote
    exact readString_escape (readEscape_letter rfl)
  · subst hback
    exact readString_escape (readEscape_letter rfl)
  · subst h8
    exact readString_escape (readEscape_letter rfl)
  · subst hc
    exact readString_escape (readEscape_letter rfl)
  · subst hn
    exact readString_escape (readEscape_letter rfl)
  · subst hr
    exact readString_escape (readEscape_letter rfl)
  · subst ht
    exact readString_escape (readEscape_letter rfl)
  · exact readString_escape (readEscape_control hcontrol hrest)
  · exact readString_plain hquote hback hcontrol

/-- The points of a text that are written in a string, up to its end. -/
theorem readString_points {ps : List Point} (h : ∀ p ∈ ps, p.isHalf = false)
    (opening rest : List Char) :
    readString opening (ps.flatMap escapePoint ++ '"' :: rest) = .ok (ps, rest) := by
  induction ps with
  | nil => exact readString_close opening rest
  | cons p ps ih =>
      obtain ⟨hp, hps⟩ := List.forall_mem_cons.mp h
      cases p with
      | half half => cases hp
      | char c =>
          rw [List.flatMap_cons, List.append_assoc]
          show readString opening (escapeChar c ++ _) = _
          rw [readString_escapeChar opening c (by simp), ih hps]
          rfl

/-- **A text is read from the string that is written for it.** -/
theorem readString_written {t : Text} (h : t.hasHalves = false) (opening rest : List Char) :
    ∃ inner, writeString t ++ rest = '"' :: inner ∧
      readString opening inner = .ok (t.points, rest) := by
  have hpoints := Text.hasHalves_eq_false_iff.mp h
  refine ⟨t.points.flatMap escapePoint ++ '"' :: rest, ?_, readString_points hpoints opening rest⟩
  show '"' :: ((t.points.flatMap escapePoint ++ ['"']) ++ rest) = _
  rw [List.append_assoc, List.singleton_append]

end Casebook.Json
