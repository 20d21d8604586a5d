import Casebook.Checker.Frontend
import Casebook.Config.Load
import Casebook.Proofs.Case.Document
import Casebook.Proofs.Number.Decimal

/-!
# The version that is checked against

A configuration gives the version of the language as a text, or as a number whose text is one. A
plain scalar such as `3.11` is a number: it is read as the nearest binary number, and the version is
the shortest decimal of that number.

Main statement (`load_version`): of a scalar with at most fifteen digits behind the point the
options have the version with these digits, but without the zeros at the end. So it is the version
that was written exactly if there are no zeros at the end, or only the one of `3.0`
(`load_version_ten`).
-/

namespace Casebook

open Number
open Disk (Path Workspace)

/-- The scalar of a version: a three, a point, and the digits of a number. -/
def versionScalar (n : Nat) : Text := ("3." ++ toString n : String)

theorem versionScalar_eq (n : Nat) :
    versionScalar n = .ofChars ('3' :: '.' :: Nat.toDigits 10 n) := by
  show Text.ofChars ("3." ++ Nat.repr n).toList = _
  rw [Nat.repr_eq_ofList_toDigits, String.toList_append, String.toList_ofList, String.toList_ofList]
  rfl

/-! ## Characters of versions -/

/-- A character of a version. -/
def IsVersionChar (c : Char) : Prop := c.isDigit = true ∨ c = '.'

theorem isVersionChar_of_mem {n : Nat} {c : Char} (h : c ∈ '3' :: '.' :: Nat.toDigits 10 n) :
    IsVersionChar c := by
  rcases List.mem_cons.mp h with rfl | h
  · exact Or.inl (by decide)
  rcases List.mem_cons.mp h with rfl | h
  · exact Or.inr rfl
  · exact Or.inl ((Text.isNumeral_toDigits n).isDigit c h)

/-- What holds of a point and the ten digits holds of the characters of versions. -/
theorem IsVersionChar.of_all {P : Char → Prop} (hpoint : P '.')
    (hdigit : ∀ n : Fin 10, P (Char.ofNat (48 + n))) {c : Char} (h : IsVersionChar c) : P c := by
  rcases h with h | rfl
  · obtain ⟨hlow, hhigh⟩ := Text.toNat_of_isDigit h
    have hc := hdigit ⟨c.toNat - 48, by omega⟩
    rwa [Fin.val_mk, Nat.add_sub_cancel' hlow, Char.ofNat_toNat] at hc
  · exact hpoint

section
variable {c : Char} (h : IsVersionChar c)
include h

theorem IsVersionChar.ne_bar : c ≠ '_' :=
  h.of_all (P := (· ≠ '_')) (by decide) (by decide)

theorem IsVersionChar.ne_colon : c ≠ ':' :=
  h.of_all (P := (· ≠ ':')) (by decide) (by decide)

theorem IsVersionChar.ne_lineFeed : c ≠ '\n' :=
  h.of_all (P := (· ≠ '\n')) (by decide) (by decide)

theorem IsVersionChar.not_blank : Text.isNumeralBlank c = false :=
  h.of_all (P := (Text.isNumeralBlank · = false)) (by decide) (by decide)

theorem IsVersionChar.lower : c.toNat < 0x80 ∧ c.toLower = c :=
  h.of_all (P := fun c => c.toNat < 0x80 ∧ c.toLower = c) (by decide) (by decide)

end

theorem isTagDigit_of_isDigit {c : Char} (h : c.isDigit = true) : Yaml.Tag.isDigit c = true := by
  have hdigit := Text.toNat_of_isDigit h
  have hc : c = Char.ofNat c.toNat := (Char.ofNat_toNat c).symm
  rw [hc]
  obtain ⟨hlow, hhigh⟩ := hdigit
  generalize c.toNat = n at hlow hhigh
  interval_cases n <;> decide

theorem dropWhile_of_none {α : Type} {p : α → Bool} {as : List α} (h : ∀ a ∈ as, p a = false) :
    as.dropWhile p = as := by
  cases as with
  | nil => rfl
  | cons a as => rw [List.dropWhile_cons, h a (by simp), if_neg Bool.false_ne_true]

/-! ## The value of the scalar -/

namespace Yaml

/-- The scalar of a version has the form of a floating point number. -/
theorem Tag.implicit_versionScalar (n : Nat) : Tag.implicit (versionScalar n) = .float := by
  have hlineEnd : Tag.withoutLineEnd ('3' :: '.' :: Nat.toDigits 10 n) =
      '3' :: '.' :: Nat.toDigits 10 n := by
    unfold Tag.withoutLineEnd
    rw [if_neg]
    simp only [Bool.and_eq_true, beq_iff_eq, not_and]
    intro hlast
    exact absurd rfl (isVersionChar_of_mem (List.mem_of_getLast? hlast)).ne_lineFeed
  have htruths :
      Tag.truths.any (·.1 == String.ofList ('3' :: '.' :: Nat.toDigits 10 n)) = false := by
    have hheads : ∀ w ∈ Tag.truths, w.1.toList.head? ≠ some '3' := by decide
    rw [List.any_eq_false]
    intro w hw heq
    refine hheads w hw ?_
    rw [beq_iff_eq.mp heq, String.toList_ofList]
    rfl
  have hfloat : Tag.isFloat ('3' :: '.' :: Nat.toDigits 10 n) = true := by
    have hdigits : (Nat.toDigits 10 n).dropWhile Tag.isDigitOrBar = [] :=
      List.dropWhile_eq_nil_iff.mpr fun c hc => by
        unfold Tag.isDigitOrBar
        rw [isTagDigit_of_isDigit ((Text.isNumeral_toDigits n).isDigit c hc), Bool.true_or]
    show ((Tag.isDigit '3' && Tag.isExponent ((Nat.toDigits 10 n).dropWhile Tag.isDigitOrBar)) ||
      false) = true
    rw [hdigits]
    decide
  unfold Tag.implicit
  rw [versionScalar_eq, Text.chars?_ofChars, Option.map_some, Option.getD_some]
  unfold Tag.ofForm
  dsimp only
  rw [hlineEnd, htruths, hfloat]
  rfl

namespace Content

theorem number?_version (n : Nat) : number? ('3' :: '.' :: Nat.toDigits 10 n) =
    some (.ofDecimal false (threePoint n).1 (-((threePoint n).2 : Int))) := by
  have hdigit : ∀ c ∈ Nat.toDigits 10 n, Text.isDigit c = true := fun c hc =>
    Text.isDigit_of_ascii ((Text.isNumeral_toDigits n).isDigit c hc)
  have hmantissa : mantissa? ('3' :: '.' :: Nat.toDigits 10 n) =
      some ((threePoint n).1, (threePoint n).2, []) := by
    show some (Text.digitsValue ('3' :: (Nat.toDigits 10 n).takeWhile Text.isDigit),
      ((Nat.toDigits 10 n).takeWhile Text.isDigit).length,
      (Nat.toDigits 10 n).dropWhile Text.isDigit) = _
    rw [List.takeWhile_eq_self_iff.mpr hdigit, List.dropWhile_eq_nil_iff.mpr hdigit,
      digitsValue_cons, Text.digitsValue_toDigits]
    rfl
  show ((mantissa? ('3' :: '.' :: Nat.toDigits 10 n)).bind fun x => (exponent? x.2.2).bind fun e =>
    some (Binary64.ofDecimal false x.1 (e - x.2.1))) = _
  rw [hmantissa]
  show some (Binary64.ofDecimal false _ (0 - _)) = _
  rw [Int.zero_sub]

section
variable {cs : List Char} (h : ∀ c ∈ cs, IsVersionChar c)
include h

theorem withoutBars_chars : withoutBars (.ofChars cs) = .ofChars cs := by
  unfold withoutBars Text.ofChars
  dsimp only
  rw [List.filter_eq_self.mpr]
  intro p hp
  obtain ⟨c, hc, rfl⟩ := List.mem_map.mp hp
  simpa using (h c hc).ne_bar

theorem lower_chars : (Text.ofChars cs).lower = .ofChars cs := by
  have hafter : ∀ before, Text.lowerAfter before (cs.map .char) = cs.map .char := by
    induction cs with
    | nil => exact fun before => rfl
    | cons c cs ih =>
        intro before
        obtain ⟨hc, hcs⟩ := List.forall_mem_cons.mp h
        obtain ⟨hsmall, hlower⟩ := hc.lower
        have hsigma : c ≠ 'Σ' := by
          rintro rfl
          exact absurd hsmall (by decide)
        rw [List.map_cons, Text.lowerAfter, if_neg hsigma, ih hcs]
        unfold Text.lowerChar
        dsimp only
        rw [if_pos hsmall, hlower]
        rfl
  exact congrArg Text.mk (hafter [])

theorem trimmed_chars : (Text.ofChars cs).trimmed Text.isNumeralBlank = .ofChars cs := by
  have hpasses : ∀ p ∈ cs.map Point.char, Point.passes Text.isNumeralBlank p = false := by
    intro p hp
    obtain ⟨c, hc, rfl⟩ := List.mem_map.mp hp
    exact (h c hc).not_blank
  unfold Text.trimmed Text.ofChars
  dsimp only
  rw [dropWhile_of_none hpasses, dropWhile_of_none fun p hp => hpasses p (List.mem_reverse.mp hp),
    List.reverse_reverse]

end

theorem float_versionScalar (n : Nat) : float (versionScalar n) =
    .ok (.ofDecimal false (threePoint n).1 (-((threePoint n).2 : Int))) := by
  have hchars : ∀ c ∈ '3' :: '.' :: Nat.toDigits 10 n, IsVersionChar c := fun c =>
    isVersionChar_of_mem
  have hword : ∀ w : String, w.toList.head? ≠ some '3' →
      isWord [w] (Text.ofChars ('3' :: '.' :: Nat.toDigits 10 n)).points = false := by
    intro w hw
    simp only [isWord, List.any_cons, List.any_nil, Bool.or_false, beq_eq_false_iff_ne]
    intro heq
    cases hchars : w.toList with
    | nil => simp [Text.ofChars, Text.ofString, hchars] at heq
    | cons c cs =>
        rw [hchars] at hw
        simp only [Text.ofChars, Text.ofString, hchars, List.map_cons, Text.mk.injEq,
          List.cons.injEq, Point.char.injEq] at heq
        exact hw (by rw [← heq.1]; rfl)
  have hcolon : (Text.ofChars ('3' :: '.' :: Nat.toDigits 10 n)).points.contains
      (Point.char ':') = false := by
    rw [Bool.eq_false_iff, ne_eq, List.contains_iff_mem]
    intro hmem
    obtain ⟨c, hc, hcolon⟩ := List.mem_map.mp hmem
    exact (hchars c hc).ne_colon (Point.char.inj hcolon)
  have hdecimal : decimal (Text.ofChars ('3' :: '.' :: Nat.toDigits 10 n)).points =
      .ok (.ofDecimal false (threePoint n).1 (-((threePoint n).2 : Int))) := by
    unfold decimal
    rw [trimmed_chars hchars, Text.chars?_ofChars, Option.bind_some, number?_version]
  have hsign : takeSign (Text.ofChars ('3' :: '.' :: Nat.toDigits 10 n)) =
      .ok (false, (Text.ofChars ('3' :: '.' :: Nat.toDigits 10 n)).points) := rfl
  unfold float
  rw [versionScalar_eq, withoutBars_chars hchars, lower_chars hchars, hsign]
  simp only [bind, Except.bind, hword ".inf" (by decide), hword ".nan" (by decide), hcolon,
    hdecimal, Bool.false_eq_true, if_false]
  rfl

/-- **The plain scalar of a version** is a floating point number: the one nearest to the decimal. -/
theorem value_versionScalar (n : Nat) :
    value (Tag.implicit (versionScalar n)) (versionScalar n) =
      .ok (.float (.ofDecimal false (threePoint n).1 (-((threePoint n).2 : Int)))) := by
  rw [Tag.implicit_versionScalar]
  show (float (versionScalar n)).map Value.float = _
  rw [float_versionScalar]
  rfl

end Content

end Yaml

/-! ## The version of the scalar -/

theorem isVersion_versionScalar (n : Nat) : isVersion (versionScalar n) = true := by
  have hdigits : ((Nat.toDigits 10 n).map Point.char).all (Point.passes Text.isDigit) = true := by
    rw [List.all_eq_true]
    intro p hp
    obtain ⟨c, hc, rfl⟩ := List.mem_map.mp hp
    exact Text.isDigit_of_ascii ((Text.isNumeral_toDigits n).isDigit c hc)
  rw [versionScalar_eq]
  show (!((Nat.toDigits 10 n).map Point.char).isEmpty &&
    ((Nat.toDigits 10 n).map Point.char).all (Point.passes Text.isDigit)) = true
  rw [hdigits, Bool.and_true, Bool.not_eq_true', List.isEmpty_eq_false_iff, ne_eq,
    List.map_eq_nil_iff]
  exact Nat.toDigits_ne_nil

/-- A number without the zeros at the end of its digits. -/
structure IsTrimmed (n q : Nat) : Prop where
  zeros : ∃ j, n = q * 10 ^ j
  last : q = 0 ∨ q % 10 ≠ 0

theorem exists_isTrimmed (n : Nat) : ∃ q, IsTrimmed n q := by
  by_cases hn : n = 0
  · exact ⟨0, ⟨0, by simp [hn]⟩, Or.inl rfl⟩
  · obtain ⟨j, q, hq, hj⟩ := Nat.exists_eq_pow_mul_and_not_dvd hn 10 (by decide)
    exact ⟨q, ⟨j, by rw [hj, Nat.mul_comm]⟩, Or.inr fun h => hq (Nat.dvd_of_mod_eq_zero h)⟩

/-- Only zeros are taken off, and all of them. -/
theorem IsTrimmed.eq_iff {n q : Nat} (h : IsTrimmed n q) : q = n ↔ n = 0 ∨ n % 10 ≠ 0 := by
  obtain ⟨⟨j, rfl⟩, hlast⟩ := h
  constructor
  · intro heq
    rwa [← heq]
  · intro h
    cases j with
    | zero => rw [Nat.pow_zero, Nat.mul_one]
    | succ j =>
        rw [Nat.pow_succ, ← Nat.mul_assoc] at h ⊢
        rcases h with h | h
        · have hzero : q * 10 ^ j = 0 := by omega
          rcases Nat.mul_eq_zero.mp hzero with hq | hpow
          · rw [hq, Nat.zero_mul, Nat.zero_mul]
          · exact absurd hpow (Nat.pow_pos (by decide)).ne'
        · omega

theorem IsTrimmed.isHuge {n q : Nat} (h : IsTrimmed n q) (hn : n < 10 ^ 15) :
    Text.isHuge q = false := by
  obtain ⟨⟨j, hj⟩, -⟩ := h
  have hle : q ≤ n := by
    rw [hj]
    exact Nat.le_mul_of_pos_right q (Nat.pow_pos (by decide))
  have hlimit : 15 ≤ Text.numeralLimit := by decide
  unfold Text.isHuge Text.numeralBound
  rw [decide_eq_false_iff_not, Int.natAbs_natCast]
  -- the bound is not to be computed
  generalize Text.numeralLimit = limit at hlimit ⊢
  have hbound : 10 ^ 15 ≤ Nat.pow 10 limit := Nat.pow_le_pow_right (by decide) hlimit
  omega

/-- **The version of a scalar** with at most fifteen digits is the scalar without the zeros at its
end. -/
theorem versionText_scalar {n q : Nat} (hn : n < 10 ^ 15) (hq : IsTrimmed n q) :
    versionText (.float (.ofDecimal false (threePoint n).1 (-((threePoint n).2 : Int)))) =
      .good (some (versionScalar q)) := by
  have hrender : Layout.message.render
      (.ofDecimal false (threePoint n).1 (-((threePoint n).2 : Int))) = "3." ++ toString q := by
    obtain ⟨⟨j, hj⟩, hlast⟩ := hq
    rcases hlast with rfl | hlast
    · rw [Nat.zero_mul] at hj
      subst hj
      decide
    · exact render_threePoint hn hj hlast
  generalize Binary64.ofDecimal false (threePoint n).1 (-((threePoint n).2 : Int)) = x at *
  show (if isVersion (Text.ofString (Layout.message.render x)) then
    Schema.Checked.good (some (Text.ofString (Layout.message.render x))) else _) = _
  rw [hrender]
  exact if_pos (isVersion_versionScalar q)

namespace Checker.Options

/-- The numbers of a version are those that it is written with. -/
theorem versionNumbers_scalar {q : Nat} (hq : Text.isHuge q = false) :
    versionNumbers (versionScalar q) = .ok (.tuple [.int 3, .int q]) := by
  have hchars : ((Nat.toDigits 10 q).map Point.char).filterMap Point.char? = Nat.toDigits 10 q := by
    rw [List.filterMap_map]
    exact List.filterMap_some
  have hread : Text.readNumeral (Nat.toDigits 10 q) = .ok q := by
    unfold Text.readNumeral
    rw [if_pos (Text.length_toDigits_le hq), Text.digitsValue_toDigits]
  rw [versionScalar_eq]
  show (do
    let minor ← (do
      return Value.int (Int.ofNat (← (Text.readNumeral (((Nat.toDigits 10 q).map
        Point.char).filterMap Point.char?)).mapError Fault.longNumeral)))
    return Value.tuple [.int 3, minor] : Outcome Value) = _
  rw [hchars, hread]
  rfl

theorem get?_put (o : Options) (name n : Text) (v : Value) :
    (o.put name v).get? n = if n = name then some v else o.get? n :=
  Table.lookup_put name n v o.values

/-- The checker takes no such option, whatever was set before. -/
def IsRefused (e : Text × Value) : Prop := ∀ o : Options, ∃ fault, o.set e.1 e.2 = .error fault

/-- The option is the version once more, as two numbers. -/
def IsVersionOption (e : Text × Value) : Prop :=
  e.1 = versionOption ∧ ∃ m n, e.2 = .tuple [.int m, .int n]

theorem admit_version {name : Text} {v a : Value} (h : OptionKind.version.admit name v = .ok a) :
    ∃ m n, v = .tuple [.int m, .int n] := by
  unfold OptionKind.admit at h
  split at h
  all_goals first | contradiction | exact ⟨_, _, rfl⟩

/-- An option is refused, or sets the version once more, or is set and leaves the version alone. -/
theorem set_cases (e : Text × Value) : IsRefused e ∨ IsVersionOption e ∨
    ∀ o : Options, ∃ o', o.set e.1 e.2 = .ok o' ∧ o'.get? versionOption = o.get? versionOption := by
  obtain ⟨name, v⟩ := e
  unfold IsRefused IsVersionOption set
  dsimp only
  cases hkind : optionKind? name with
  | none => exact Or.inl fun o => ⟨_, rfl⟩
  | some kind =>
      dsimp only
      cases hadmit : kind.admit name v with
      | error fault => exact Or.inl fun o => ⟨fault, rfl⟩
      | ok admitted =>
          by_cases hname : name = versionOption
          · subst hname
            -- the version takes two numbers only
            have hversion : optionKind? versionOption = some .version := by decide
            cases hversion.symm.trans hkind
            exact Or.inr (Or.inl ⟨rfl, admit_version hadmit⟩)
          · refine Or.inr (Or.inr fun o => ⟨o.put name admitted, rfl, ?_⟩)
            rw [get?_put, if_neg (Ne.symm hname)]

/-- Further options leave the version alone, unless one of them is refused or the version itself. -/
theorem foldlM_set_cases (es : List (Text × Value)) (o : Options) :
    (∃ e ∈ es, IsRefused e) ∨ (∃ e ∈ es, IsVersionOption e) ∨
      ∃ o', es.foldlM (fun o e => o.set e.1 e.2) o = .ok o' ∧
        o'.get? versionOption = o.get? versionOption := by
  induction es generalizing o with
  | nil => exact Or.inr (Or.inr ⟨o, rfl, rfl⟩)
  | cons e es ih =>
      rcases set_cases e with hrefused | hversion | hset
      · exact Or.inl ⟨e, by simp, hrefused⟩
      · exact Or.inr (Or.inl ⟨e, by simp, hversion⟩)
      · obtain ⟨o', ho', hkept⟩ := hset o
        rcases ih o' with ⟨f, hf, hrefused⟩ | ⟨f, hf, hversion⟩ | ⟨last, hlast, hsame⟩
        · exact Or.inl ⟨f, List.mem_cons_of_mem _ hf, hrefused⟩
        · exact Or.inr (Or.inl ⟨f, List.mem_cons_of_mem _ hf, hversion⟩)
        · refine Or.inr (Or.inr ⟨last, ?_, hsame.trans hkept⟩)
          rw [List.foldlM_cons, ho']
          exact hlast

end Checker.Options

/-! ## The configuration of the scalar -/

section
open Schema

variable {α β : Type} {name : String} {v : Value}

theorem Schema.seq_good {f : Checked (α → β)} {x : Checked α} {b : β} (h : f <*> x = .good b) :
    ∃ g a, f = .good g ∧ x = .good a ∧ g a = b := by
  cases f with
  | bad ds => cases x <;> cases h
  | good g =>
      cases x with
      | bad es => cases h
      | good a =>
          cases h
          exact ⟨g, a, rfl, rfl, rfl⟩

theorem Schema.under_good {c : Checked α} {step : Step} {a : α} (h : c.under step = .good a) :
    c = .good a := by
  cases c with
  | bad ds => cases h
  | good b =>
      cases h
      rfl

theorem Schema.model_good {fields : Check α} {a : α} (h : model name fields v = .good a) :
    fields v = .good a := by
  unfold model at h
  split at h
  · exact h
  · cases h

theorem Schema.fieldOr_given {check : Check α} {usual a : α} {given : Value}
    (hgiven : v.field? name = some given) (h : fieldOr name check usual v = .good a) :
    check given = .good a := by
  unfold fieldOr at h
  rw [hgiven] at h
  exact under_good h

theorem Schema.map_good' {f : α → β} {x : Checked α} {b : β} (h : f <$> x = .good b) :
    ∃ a, x = .good a ∧ f a = b := by
  cases x with
  | bad ds => cases h
  | good a =>
      cases h
      exact ⟨a, rfl, rfl⟩

theorem Schema.good_of_orFault {c : Checked α} {a : α} (h : c.orFault name = .ok a) :
    c = .good a := by
  cases c with
  | bad ds => cases h
  | good b =>
      cases h
      rfl

theorem CheckerConfig.check_good {c : CheckerConfig} (h : CheckerConfig.check v = .good c) :
    fieldOr "python_version" versionText none v = .good c.version := by
  obtain ⟨f, options, hf, -, rfl⟩ := seq_good (model_good h)
  obtain ⟨g, notes, hg, -, rfl⟩ := seq_good hf
  obtain ⟨k, entry, hk, -, rfl⟩ := seq_good hg
  obtain ⟨version, hversion, rfl⟩ := map_good' hk
  exact hversion

theorem Config.check_good {c : Config} (h : Config.check v = .good c) :
    fieldOr "checker" CheckerConfig.check .usual v = .good c.checker := by
  obtain ⟨f, snapshots, hf, -, rfl⟩ := seq_good (model_good h)
  obtain ⟨g, cases, hg, -, rfl⟩ := seq_good hf
  obtain ⟨k, checker, hk, hchecker, rfl⟩ := seq_good hg
  obtain ⟨l, provider, hl, -, rfl⟩ := seq_good hk
  obtain ⟨version, -, rfl⟩ := map_good' hl
  exact hchecker

end

/-- A map with entries is not empty, whatever labels it has in front. -/
theorem Value.isEmpty_of_bare {entries : List (Value × Value)} (hne : entries ≠ []) :
    ∀ {v : Value}, v.bare = .map entries → v.isEmpty = false
  | .map es, h => by
      cases h
      exact List.isEmpty_eq_false_iff.mpr hne
  | .shared label v, h => isEmpty_of_bare (v := v) hne h
  | .loop label (.map es), h => by
      have hes : es ≠ [] := by
        rintro rfl
        cases h
        exact hne rfl
      exact List.isEmpty_eq_false_iff.mpr hes
  | .loop label (.again l isMap), h => by
      unfold bare replace at h
      split at h
      · cases h
      · cases h

theorem Value.isEmpty_of_field? {name : String} {v given : Value} (h : v.field? name = some given) :
    v.isEmpty = false := by
  unfold field? at h
  split at h
  · next entries hbare =>
    refine isEmpty_of_bare ?_ hbare
    rintro rfl
    cases h
  · cases h

/-- The document gives the version of the checker by the plain scalar. -/
def GivesVersion (v : Value) (n : Nat) : Prop :=
  ∃ checker given, v.field? "checker" = some checker ∧
    checker.field? "python_version" = some given ∧
    Yaml.Content.value (Yaml.Tag.implicit (versionScalar n)) (versionScalar n) = .ok given

namespace Config

/-- The files that a configuration may be in, in the order in which they are tried. -/
def candidates (file : Option Path) (project : Path) : List Path :=
  match file with
  | some path => [path]
  | none => fileNames.map project.below

theorem load_of_there {w : Workspace} {steps : Nat} {file : Option Path} {project path : Path}
    (h : firstThere w (candidates file project) = .ok (some path)) :
    load w steps file project = loadFile w steps path := by
  show (do
    match ← (firstThere w (candidates file project)).mapError Fault.disk with
    | some path => loadFile w steps path
    | none => return .usual) = _
  rw [h]
  rfl

/-- What a file with the scalar is loaded as. -/
theorem version_of_loadFile {w : Workspace} {steps : Nat} {path : Path} {v : Value} {n q : Nat}
    {c : Config} (hn : n < 10 ^ 15) (hq : IsTrimmed n q)
    (hread : w.readYaml (steps + 1) path.text = .ok v) (hgives : GivesVersion v n)
    (h : loadFile w steps path = .ok c) : c.checker.version = some (versionScalar q) := by
  obtain ⟨checker, given, hchecker, hgiven, hvalue⟩ := hgives
  have hcheck : Config.check v = .good c := by
    unfold loadFile at h
    rw [hread] at h
    simp only [bind, Except.bind, Value.isEmpty_of_field? hchecker, Bool.false_eq_true,
      if_false] at h
    exact Schema.good_of_orFault h
  have hversion := Schema.fieldOr_given hgiven
    (CheckerConfig.check_good (Schema.fieldOr_given hchecker (check_good hcheck)))
  rw [Yaml.Content.value_versionScalar] at hvalue
  cases hvalue
  exact (Schema.Checked.good.inj (hversion.symm.trans (versionText_scalar hn hq)))

open Checker (Options Frontend versionOption)

/-- **The version that is checked against.** Let a configuration file give the version by a plain
scalar of a three, a point, and at most fifteen digits. If it is loaded at all, then a frontend is
made of it, unless one of its further options is refused or is once more the version; and the
options that are built for a compilation have the version of the scalar exactly if its digits do not
end in a zero, or are only one. -/
theorem load_version {w : Workspace} {steps : Nat} {file : Option Path} {project path : Path}
    {v : Value} {n : Nat} {c : Config} (hn : n < 10 ^ 15)
    (hthere : firstThere w (candidates file project) = .ok (some path))
    (hread : w.readYaml (steps + 1) path.text = .ok v) (hgives : GivesVersion v n)
    (hload : load w steps file project = .ok c) (root : Text) :
    (∃ e ∈ c.checker.options, Options.IsRefused e) ∨
      (∃ e ∈ c.checker.options, Options.IsVersionOption e) ∨
      ∃ f o, Frontend.make c.checker root = .ok f ∧ Options.ofConfig f.config = .ok o ∧
        (o.get? versionOption = some (.tuple [.int 3, .int n]) ↔ n = 0 ∨ n % 10 ≠ 0) := by
  obtain ⟨q, hq⟩ := exists_isTrimmed n
  rw [load_of_there hthere] at hload
  have hversion := version_of_loadFile hn hq hread hgives hload
  have hsmall : Text.isHuge q = false := hq.isHuge hn
  rcases Options.foldlM_set_cases c.checker.options
    (Options.initial.put versionOption (.tuple [.int 3, .int q])) with
    hrefused | hagain | ⟨o, ho, hkept⟩
  · exact Or.inl hrefused
  · exact Or.inr (Or.inl hagain)
  · have hoptions : Options.ofConfig c.checker = .ok o := by
      unfold Options.ofConfig Options.withVersion
      rw [hversion]
      dsimp only
      rw [Options.versionNumbers_scalar hsmall]
      exact ho
    refine Or.inr (Or.inr ⟨⟨c.checker, root⟩, o, ?_, hoptions, ?_⟩)
    · unfold Frontend.make
      rw [hoptions]
      rfl
    · rw [hkept, Options.get?_put, if_pos rfl]
      rw [← hq.eq_iff]
      constructor
      · intro heq
        cases heq
        rfl
      · rintro rfl
        rfl

/-- A project with a configuration file that gives the version by a plain scalar. -/
def versionProject (n : Nat) : Workspace :=
  ⟨.folder [("typesnap.yaml", .file (Text.encodeUtf8
    ("checker:\n  python_version: 3." ++ toString n ++ "\n").toList))], []⟩

/-- The number that a document gives for the version. -/
def givenNumber? (v : Value) : Option Binary64 :=
  match (v.field? "checker").bind (·.field? "python_version") with
  | some (.float x) => some x
  | _ => none

theorem givesVersion_of_number {v : Value} {n : Nat}
    (h : givenNumber? v = some (.ofDecimal false (threePoint n).1 (-((threePoint n).2 : Int)))) :
    GivesVersion v n := by
  unfold givenNumber? at h
  split at h
  · next x hx =>
    obtain ⟨checker, hchecker, hgiven⟩ := Option.bind_eq_some_iff.mp hx
    cases h
    exact ⟨checker, _, hchecker, hgiven, Yaml.Content.value_versionScalar n⟩
  · cases h

theorem reads_of_number {r : Outcome Value} {n : Nat}
    (h : r.toOption.bind givenNumber? =
      some (.ofDecimal false (threePoint n).1 (-((threePoint n).2 : Int)))) :
    ∃ v, r = .ok v ∧ GivesVersion v n := by
  obtain ⟨v, hv, hnumber⟩ := Option.bind_eq_some_iff.mp h
  cases r with
  | error fault => cases hv
  | ok given =>
      cases hv
      exact ⟨v, rfl, givesVersion_of_number hnumber⟩

theorem loads_plain {r : Outcome Config}
    (h : r.toOption.map (·.checker.options.isEmpty) = some true) :
    ∃ c, r = .ok c ∧ c.checker.options = [] := by
  obtain ⟨c, hc, hempty⟩ := Option.map_eq_some_iff.mp h
  cases r with
  | error fault => cases hc
  | ok loaded =>
      cases hc
      exact ⟨c, rfl, List.isEmpty_iff.mp hempty⟩

/-- A version with two digits behind the point is the one that is checked against. -/
theorem load_version_eleven : ∃ c f o,
    load (versionProject 11) 0 none (Path.ofText ".") = .ok c ∧
    Frontend.make c.checker "/m" = .ok f ∧ Options.ofConfig f.config = .ok o ∧
    o.get? versionOption = some (.tuple [.int 3, .int 11]) := by
  have hthere : firstThere (versionProject 11) (candidates none (Path.ofText ".")) =
      .ok (some (Path.ofText "typesnap.yaml")) := by cbv
  obtain ⟨v, hread, hgives⟩ := @reads_of_number
    ((versionProject 11).readYaml 1 (Path.ofText "typesnap.yaml").text) 11 (by decide +kernel)
  obtain ⟨c, hload, hoptions⟩ := @loads_plain
    (load (versionProject 11) 0 none (Path.ofText ".")) (by decide +kernel)
  rcases load_version (by decide) hthere hread hgives hload "/m" with
    ⟨e, he, -⟩ | ⟨e, he, -⟩ | ⟨f, o, hf, ho, hversion⟩
  · rw [hoptions] at he
    cases he
  · rw [hoptions] at he
    cases he
  · exact ⟨c, f, o, hload, hf, ho, hversion.mpr (by decide)⟩

/-- The version 3.10 as a plain scalar is accepted, and 3.1 is checked against. -/
theorem load_version_ten :
    (∃ v, (versionProject 10).readYaml 1 "typesnap.yaml" = .ok v ∧ GivesVersion v 10) ∧
      ∃ c f o, load (versionProject 10) 0 none (Path.ofText ".") = .ok c ∧
        Frontend.make c.checker "/m" = .ok f ∧ Options.ofConfig f.config = .ok o ∧
        o.get? versionOption = some (.tuple [.int 3, .int 1]) ∧
        o.get? versionOption ≠ some (.tuple [.int 3, .int 10]) := by
  have hthere : firstThere (versionProject 10) (candidates none (Path.ofText ".")) =
      .ok (some (Path.ofText "typesnap.yaml")) := by cbv
  obtain ⟨v, hread, hgives⟩ := @reads_of_number
    ((versionProject 10).readYaml 1 (Path.ofText "typesnap.yaml").text) 10 (by decide +kernel)
  obtain ⟨c, hload, hoptions⟩ := @loads_plain
    (load (versionProject 10) 0 none (Path.ofText ".")) (by decide +kernel)
  have htrimmed : IsTrimmed 10 1 := ⟨⟨1, rfl⟩, by decide⟩
  have hversion := version_of_loadFile (by decide) htrimmed hread hgives
    ((load_of_there hthere).symm.trans hload)
  have ho : Options.ofConfig c.checker =
      .ok (Options.initial.put versionOption (.tuple [.int 3, .int 1])) := by
    unfold Options.ofConfig Options.withVersion
    rw [hversion, hoptions]
    dsimp only
    rw [Options.versionNumbers_scalar (htrimmed.isHuge (by decide))]
    rfl
  refine ⟨⟨v, hread, hgives⟩, c, ⟨c.checker, "/m"⟩, _, hload, ?_, ho, rfl, ?_⟩
  · unfold Frontend.make
    rw [ho]
    rfl
  · rw [Options.get?_put, if_pos rfl]
    simp

end Config

end Casebook
