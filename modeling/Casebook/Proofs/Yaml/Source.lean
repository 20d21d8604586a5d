import Casebook.Proofs.Text.Stream
import Casebook.Proofs.Yaml.Building
import Casebook.Proofs.Yaml.Layout
import Casebook.Proofs.Yaml.Making
import Casebook.Yaml.Source

/-!
# Files of maps of lists

Main statement (`Source.read_write`): the file of a map of lists of texts that can be read back is
read as that map.
-/

namespace Casebook.Yaml

open Text

/-- Characters that are written as they are can be read. -/
theorem isAllowed_of_isShown {c : Char} (h : Style.isShown c = true) :
    isAllowed c = true ∧ c ≠ '\r' ∧ c ≠ '\uFEFF' := by
  refine ⟨?_, ?_, ?_⟩
  · have hcode : ∀ d : Char, c = d ↔ c.toNat = d.toNat := fun d =>
      ⟨congrArg Char.toNat, Char.toNat_inj.mp⟩
    simp only [Style.isShown, isAllowed, Bool.or_eq_true, Bool.and_eq_true, decide_eq_true_eq,
      beq_iff_eq, bne_iff_ne, ne_eq, hcode, Char.reduceToNat] at h ⊢
    omega
  · rintro rfl
    exact absurd h (by decide)
  · rintro rfl
    exact absurd h (by decide)

theorem length_le_encodeUtf8 (cs : List Char) : cs.length ≤ (encodeUtf8 cs).length := by
  induction cs with
  | nil => exact Nat.le_refl 0
  | cons c cs ih =>
      obtain ⟨lead, tail, hbytes, -⟩ := isSequence_utf8EncodeChar c
      rw [encodeUtf8_cons, hbytes, List.length_append, List.length_cons, List.length_cons]
      omega

namespace Source

section
variable {cs : List Char}

/-- The pieces of a text that can be read are put together again. -/
theorem behind_eq {s : Stream} (h : s.Holds cs) (hreturn : '\r' ∉ cs)
    (hallowed : ∀ c ∈ cs, isAllowed c = true) {fuel : Nat} (hfuel : cs.length < fuel)
    (read : List Char) : behind fuel s read = ⟨read ++ cs, none⟩ := by
  induction fuel generalizing s cs read with
  | zero => cases hfuel
  | succ fuel ih =>
      obtain ⟨t, htake, ht⟩ := h.take hreturn pieceSize
      rw [behind, htake]
      dsimp only
      by_cases hempty : cs = []
      · subst hempty
        simp
      · have hpos := List.length_pos_of_ne_nil hempty
        have hpiece : (cs.take pieceSize).isEmpty = false := by
          simp [hempty, pieceSize]
        have hall : (cs.take pieceSize).all isAllowed = true :=
          List.all_eq_true.mpr fun c hc => hallowed c (List.mem_of_mem_take hc)
        rw [hpiece, if_neg Bool.false_ne_true, if_pos hall]
        rw [ih ht (fun hmem => hreturn (List.mem_of_mem_drop hmem))
          (fun c hc => hallowed c (List.mem_of_mem_drop hc))
          (by rw [List.length_drop]; unfold pieceSize; omega), List.append_assoc,
          List.take_append_drop]

/-- **A text of characters that can be read is read from its bytes.** -/
theorem ofBytes_encodeUtf8 (hreturn : '\r' ∉ cs) (hallowed : ∀ c ∈ cs, isAllowed c = true) :
    ofBytes (encodeUtf8 cs) = ⟨cs, none⟩ := by
  obtain ⟨t, htake, ht⟩ := (Stream.holds_ofBytes cs).take hreturn pieceSize
  have hreturn' : '\r' ∉ cs.drop pieceSize := fun hmem => hreturn (List.mem_of_mem_drop hmem)
  obtain ⟨u, htake', hu⟩ := ht.take hreturn' pieceSize
  have hpieces : firstPieces (.ofBytes (encodeUtf8 cs)) =
      .ok (cs.take pieceSize ++ (cs.drop pieceSize).take pieceSize, u) := by
    unfold firstPieces
    rw [htake]
    simp only [Bind.bind, Except.bind, htake']
    rfl
  have hall : (cs.take pieceSize ++ (cs.drop pieceSize).take pieceSize).all isAllowed = true := by
    refine List.all_eq_true.mpr fun c hc => hallowed c ?_
    rcases List.mem_append.mp hc with hc | hc
    · exact List.mem_of_mem_take hc
    · exact List.mem_of_mem_drop (List.mem_of_mem_take hc)
  unfold ofBytes
  rw [hpieces]
  dsimp only
  rw [if_pos hall, behind_eq hu]
  · rw [List.append_assoc, List.take_append_drop, List.take_append_drop]
  · exact fun hmem => hreturn' (List.mem_of_mem_drop hmem)
  · exact fun c hc => hallowed c (List.mem_of_mem_drop (List.mem_of_mem_drop hc))
  · have hle := length_le_encodeUtf8 cs
    rw [List.length_drop, List.length_drop]
    omega

end

theorem read_of_ok {cs : List Char} {levels : Nat} {g : Graph}
    (h : Graph.ofText levels cs = .ok (some g)) :
    (Source.mk cs none).read levels = (Graph.value g).mapError .document := by
  unfold read
  dsimp only
  rw [h]
  rfl

/-- **The file of a map of lists of texts is read as that map.** -/
theorem read_write {es : List (Text × List Text)} (hes : es ≠ [])
    (hkeys : (es.map Prod.fst).Nodup) (h : ∀ e ∈ es, Page.IsPrintable e) {levels : Nat}
    (hlevels : 3 ≤ levels) :
    (ofBytes (encodeUtf8 (write (.map (es.map Page.entryValue))))).read levels =
      .ok (.map (es.map Page.entryValue)) := by
  obtain ⟨ts, hlines, hshown⟩ := write_entries hes h
  have hallowed := fun c hc => (isAllowed_of_isShown (hshown c hc)).1
  have hreturn : '\r' ∉ write (.map (es.map Page.entryValue)) := fun hmem =>
    (isAllowed_of_isShown (hshown _ hmem)).2.1 rfl
  have hmark : (write (.map (es.map Page.entryValue))).head? ≠ some '\uFEFF' := fun hhead =>
    (isAllowed_of_isShown (hshown _ (List.mem_of_mem_head? hhead))).2.2 rfl
  rw [ofBytes_encodeUtf8 hreturn hallowed,
    read_of_ok (Graph.ofText_entryLines hlines hes hmark hlevels), Graph.value_entries hes hkeys]
  rfl

end Source

end Casebook.Yaml
