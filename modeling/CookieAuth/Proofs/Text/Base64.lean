import CookieAuth.Text.Base64

/-!
# Bytes written as letters and read again

Three bytes make four numbers below 64, and each of them has a letter.  Both steps can be undone.

## Main definitions

* `Base64.sextets`: the numbers below 64 that stand for bytes;
* `Base64.Alphabet.Faithful`: an alphabet in which every letter stands for its number.

## Main results

* `Base64.groupsOf_sextets`: bytes are found again from their numbers;
* `Base64.decode?_encode`: bytes are found again from their letters;
* `Base64.length_encodeList`: how many letters there are.
-/

namespace CookieAuth.Text.Base64

/-- The numbers below 64 that stand for bytes. -/
def sextets : List UInt8 → List Nat
  | [] => []
  | [a] => [a.toNat / 4, a.toNat % 4 * 16]
  | [a, b] => [a.toNat / 4, a.toNat % 4 * 16 + b.toNat / 16, b.toNat % 16 * 4]
  | a :: b :: c :: rest =>
    a.toNat / 4 :: (a.toNat % 4 * 16 + b.toNat / 16) :: (b.toNat % 16 * 4 + c.toNat / 64)
      :: c.toNat % 64 :: sextets rest

theorem encodeList_eq_map (alphabet : Alphabet) (bytes : List UInt8) :
    encodeList alphabet bytes = (sextets bytes).map alphabet.letter := by
  fun_induction sextets bytes with
  | case1 => rfl
  | case2 a => rfl
  | case3 a b => rfl
  | case4 a b c rest ih => simp [encodeList, ih]

theorem lt_of_mem_sextets {bytes : List UInt8} {n : Nat} (h : n ∈ sextets bytes) : n < 64 := by
  fun_induction sextets bytes with
  | case1 => simp at h
  | case2 a =>
    have ha := a.toNat_lt
    simp only [List.mem_cons, List.not_mem_nil, or_false] at h
    omega
  | case3 a b =>
    have ha := a.toNat_lt
    have hb := b.toNat_lt
    simp only [List.mem_cons, List.not_mem_nil, or_false] at h
    omega
  | case4 a b c rest ih =>
    have ha := a.toNat_lt
    have hb := b.toNat_lt
    have hc := c.toNat_lt
    simp only [List.mem_cons] at h
    rcases h with h | h | h | h | h
    · omega
    · omega
    · omega
    · omega
    · exact ih h

/-- A byte is made up of the parts that were taken of it. -/
theorem ofNat_eq_of_toNat {b : UInt8} {n : Nat} (h : n = b.toNat) : UInt8.ofNat n = b := by
  rw [h, UInt8.ofNat_toNat]

/-- Bytes are found again from their numbers. -/
theorem groupsOf_sextets (bytes : List UInt8) : groupsOf (sextets bytes) = some bytes := by
  fun_induction sextets bytes with
  | case1 => rfl
  | case2 a =>
    have ha := a.toNat_lt
    rw [groupsOf, if_pos (by omega), ofNat_eq_of_toNat (b := a) (by omega)]
  | case3 a b =>
    have ha := a.toNat_lt
    have hb := b.toNat_lt
    rw [groupsOf, if_pos (by omega), ofNat_eq_of_toNat (b := a) (by omega),
      ofNat_eq_of_toNat (b := b) (by omega)]
  | case4 a b c rest ih =>
    have ha := a.toNat_lt
    have hb := b.toNat_lt
    have hc := c.toNat_lt
    rw [groupsOf, ih, Option.map_some, ofNat_eq_of_toNat (b := a) (by omega),
      ofNat_eq_of_toNat (b := b) (by omega), ofNat_eq_of_toNat (b := c) (by omega)]

theorem length_sextets (bytes : List UInt8) :
    (sextets bytes).length = (4 * bytes.length + 2) / 3 := by
  fun_induction sextets bytes with
  | case1 => rfl
  | case2 a => simp
  | case3 a b => simp
  | case4 a b c rest ih =>
    simp only [List.length_cons, ih]
    omega

theorem length_encodeList (alphabet : Alphabet) (bytes : List UInt8) :
    (encodeList alphabet bytes).length = (4 * bytes.length + 2) / 3 := by
  rw [encodeList_eq_map, List.length_map, length_sextets]

/-- Every letter stands for its number. -/
def Alphabet.Faithful (alphabet : Alphabet) : Prop :=
  ∀ n : Fin 64, alphabet.value? (alphabet.letter n) = some n.val

theorem faithful_standard : standard.Faithful := by
  unfold Alphabet.Faithful
  decide

theorem faithful_urlSafe : urlSafe.Faithful := by
  unfold Alphabet.Faithful
  decide

theorem mapM_value?_map_letter {alphabet : Alphabet} (h : alphabet.Faithful) {ns : List Nat}
    (hns : ∀ n ∈ ns, n < 64) : (ns.map alphabet.letter).mapM alphabet.value? = some ns := by
  induction ns with
  | nil => rfl
  | cons n rest ih =>
    have hn : alphabet.value? (alphabet.letter n) = some n := h ⟨n, hns n List.mem_cons_self⟩
    rw [List.map_cons, List.mapM_cons, hn, ih fun m hm => hns m (List.mem_cons_of_mem _ hm)]
    rfl

/-- Bytes are found again from their letters. -/
theorem decode?_encode {alphabet : Alphabet} (h : alphabet.Faithful) (bytes : List UInt8) :
    decode? alphabet (encode alphabet bytes) = some bytes := by
  unfold decode? encode decodeList?
  rw [String.toList_ofList, encodeList_eq_map,
    mapM_value?_map_letter h fun n hn => lt_of_mem_sextets hn]
  exact groupsOf_sextets bytes

end CookieAuth.Text.Base64
