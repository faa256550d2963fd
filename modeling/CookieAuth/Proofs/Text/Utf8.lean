import CookieAuth.Proofs.Text.Basic
import CookieAuth.Text.Utf8
import Mathlib.Tactic.SplitIfs

/-!
# Texts are read from their bytes

The bytes of a character are one of four forms, by the number of bytes that follow the first one.
Reading takes such a form off the front of a list, or else a gap.  So a text is read from its bytes,
and whatever reads as a text without gaps are the bytes of that text.

## Main definitions

* `Coded`: the bytes of one character, with its number.

## Main results

* `coded_utf8EncodeChar`, `utf8EncodeChar_of_coded`: these are the bytes that the library gives;
* `readFrom_of_coded`, `readFrom_cases`: what reading does at the front of a list;
* `readPieces_flatMap`: the characters of a text are read from its bytes;
* `eq_flatMap_of_readPieces`: bytes without gaps are those of their characters;
* `readText?_bytesOf`, `readLossy_bytesOf`: a text is read from its bytes;
* `eq_bytesOf_of_readText?`: only from its bytes;
* `readLossy_eq_iff`: and with gaps replaced as well, if it has no replacement character.
-/

namespace CookieAuth.Text

/-! ### The bytes of a character -/

theorem isContinuation_iff (b : UInt8) :
    isContinuation b = true ↔ 0x80 ≤ b.toNat ∧ b.toNat ≤ 0xBF := by
  revert b
  exact forall_byte (by decide +kernel)

theorem followers_eq_one_iff (b : UInt8) :
    followers b = 1 ↔ 0xC2 ≤ b.toNat ∧ b.toNat ≤ 0xDF := by
  revert b
  exact forall_byte (by decide +kernel)

theorem followers_eq_two_iff (b : UInt8) :
    followers b = 2 ↔ 0xE0 ≤ b.toNat ∧ b.toNat ≤ 0xEF := by
  revert b
  exact forall_byte (by decide +kernel)

theorem followers_eq_three_iff (b : UInt8) :
    followers b = 3 ↔ 0xF0 ≤ b.toNat ∧ b.toNat ≤ 0xF4 := by
  revert b
  exact forall_byte (by decide +kernel)

theorem followers_le (b : UInt8) : followers b ≤ 3 := by
  revert b
  exact forall_byte (by decide +kernel)

theorem followers_of_lt (b : UInt8) : b < 0x80 → followers b = 0 := by
  revert b
  exact forall_byte (by decide +kernel)

theorem fitsAfter_iff {leading b : UInt8} :
    fitsAfter leading b = true ↔ 0x80 ≤ b.toNat ∧ b.toNat ≤ 0xBF ∧
      (leading.toNat = 0xE0 → 0xA0 ≤ b.toNat) ∧ (leading.toNat = 0xED → b.toNat ≤ 0x9F) ∧
      (leading.toNat = 0xF0 → 0x90 ≤ b.toNat) ∧ (leading.toNat = 0xF4 → b.toNat ≤ 0x8F) := by
  unfold fitsAfter
  simp only [← UInt8.toNat_inj, UInt8.reduceToNat]
  split_ifs <;>
    simp only [isContinuation_iff, Bool.and_eq_true, decide_eq_true_iff, UInt8.le_iff_toNat_le,
      UInt8.reduceToNat] <;>
    omega

/-- The bytes of one character, with its number. -/
inductive Coded : List UInt8 → Nat → Prop where
  | one {b : UInt8} (h : b < 0x80) : Coded [b] b.toNat
  | two {b b₁ : UInt8} (h : followers b = 1) (h₁ : fitsAfter b b₁ = true) :
    Coded [b, b₁] (extendCode (leadingCode 1 b) b₁)
  | three {b b₁ b₂ : UInt8} (h : followers b = 2) (h₁ : fitsAfter b b₁ = true)
    (h₂ : isContinuation b₂ = true) :
    Coded [b, b₁, b₂] (extendCode (extendCode (leadingCode 2 b) b₁) b₂)
  | four {b b₁ b₂ b₃ : UInt8} (h : followers b = 3) (h₁ : fitsAfter b b₁ = true)
    (h₂ : isContinuation b₂ = true) (h₃ : isContinuation b₃ = true) :
    Coded [b, b₁, b₂, b₃] (extendCode (extendCode (extendCode (leadingCode 3 b) b₁) b₂) b₃)

theorem Coded.of_eq {code : List UInt8} {m n : Nat} (h : Coded code m) (hmn : m = n) :
    Coded code n :=
  hmn ▸ h

theorem code_two (b b₁ : UInt8) :
    extendCode (leadingCode 1 b) b₁ = (b.toNat - 0xC0) * 64 + (b₁.toNat - 0x80) := rfl

theorem code_three (b b₁ b₂ : UInt8) :
    extendCode (extendCode (leadingCode 2 b) b₁) b₂
      = ((b.toNat - 0xE0) * 64 + (b₁.toNat - 0x80)) * 64 + (b₂.toNat - 0x80) := rfl

theorem code_four (b b₁ b₂ b₃ : UInt8) :
    extendCode (extendCode (extendCode (leadingCode 3 b) b₁) b₂) b₃
      = (((b.toNat - 0xF0) * 64 + (b₁.toNat - 0x80)) * 64 + (b₂.toNat - 0x80)) * 64
        + (b₃.toNat - 0x80) := rfl

/-- A number of a character is the number of its character. -/
theorem val_ofNat_of_valid {n : Nat} (h : n.isValidChar) : (Char.ofNat n).val.toNat = n := by
  unfold Char.ofNat
  rw [dif_pos h]
  rfl

/-- These are the bytes that the library gives for the character. -/
theorem utf8EncodeChar_of_coded {code : List UInt8} {n : Nat} (h : Coded code n) :
    String.utf8EncodeChar (Char.ofNat n) = code := by
  unfold String.utf8EncodeChar
  -- The number is in the range of its form, and its digits to the base 64 are those of the bytes.
  cases h with
  | @one b h =>
    have hlow : b.toNat < 0x80 := UInt8.lt_iff_toNat_lt.mp h
    rw [val_ofNat_of_valid (.inl (by omega)), if_pos (by omega), UInt8.ofNat_toNat]
  | @two b b₁ h h₁ =>
    rw [followers_eq_one_iff] at h
    rw [fitsAfter_iff] at h₁
    rw [code_two, val_ofNat_of_valid (.inl (by omega)), if_neg (by omega), if_pos (by omega)]
    simp only [List.cons.injEq, and_true, ← UInt8.toNat_inj, UInt8.toNat_ofNat']
    omega
  | @three b b₁ b₂ h h₁ h₂ =>
    rw [followers_eq_two_iff] at h
    rw [fitsAfter_iff] at h₁
    rw [isContinuation_iff] at h₂
    rw [code_three, val_ofNat_of_valid (by unfold Nat.isValidChar; omega), if_neg (by omega),
      if_neg (by omega), if_pos (by omega)]
    simp only [List.cons.injEq, and_true, ← UInt8.toNat_inj, UInt8.toNat_ofNat']
    omega
  | @four b b₁ b₂ b₃ h h₁ h₂ h₃ =>
    rw [followers_eq_three_iff] at h
    rw [fitsAfter_iff] at h₁
    rw [isContinuation_iff] at h₂ h₃
    rw [code_four, val_ofNat_of_valid (by unfold Nat.isValidChar; omega), if_neg (by omega),
      if_neg (by omega), if_neg (by omega)]
    simp only [List.cons.injEq, and_true, ← UInt8.toNat_inj, UInt8.toNat_ofNat']
    omega

/-- The bytes that the library gives for a character are of one of the forms. -/
theorem coded_utf8EncodeChar (c : Char) : Coded (String.utf8EncodeChar c) c.toNat := by
  have hvalid : c.val.toNat < 0xD800 ∨ 0xDFFF < c.val.toNat ∧ c.val.toNat < 0x110000 := c.valid
  have hnumber : c.toNat = c.val.toNat := rfl
  have hbyte : ∀ {k : Nat}, k < 256 → (UInt8.ofNat k).toNat = k := UInt8.toNat_ofNat_of_lt'
  rw [hnumber]
  unfold String.utf8EncodeChar
  generalize c.val.toNat = n at hvalid
  dsimp only
  -- In each form the number is made up again from the digits in the bytes.
  split_ifs with hone htwo hthree
  · have hlow : UInt8.ofNat n < 0x80 := by
      rw [UInt8.lt_iff_toNat_lt, hbyte (by omega)]
      exact Nat.lt_succ_of_le hone
    have h := Coded.one hlow
    rwa [hbyte (by omega)] at h
  · have h := @Coded.two (UInt8.ofNat (n / 64 % 32 + 192)) (UInt8.ofNat (n % 64 + 128))
      (by rw [followers_eq_one_iff, hbyte (by omega)]; omega)
      (by rw [fitsAfter_iff, hbyte (by omega), hbyte (by omega)]; omega)
    rw [code_two, hbyte (by omega), hbyte (by omega)] at h
    exact h.of_eq (by omega)
  · have h := @Coded.three (UInt8.ofNat (n / 4096 % 16 + 224)) (UInt8.ofNat (n / 64 % 64 + 128))
      (UInt8.ofNat (n % 64 + 128))
      (by rw [followers_eq_two_iff, hbyte (by omega)]; omega)
      (by rw [fitsAfter_iff, hbyte (by omega), hbyte (by omega)]; omega)
      (by rw [isContinuation_iff, hbyte (by omega)]; omega)
    rw [code_three, hbyte (by omega), hbyte (by omega), hbyte (by omega)] at h
    exact h.of_eq (by omega)
  · have h := @Coded.four (UInt8.ofNat (n / 262144 % 8 + 240)) (UInt8.ofNat (n / 4096 % 64 + 128))
      (UInt8.ofNat (n / 64 % 64 + 128)) (UInt8.ofNat (n % 64 + 128))
      (by rw [followers_eq_three_iff, hbyte (by omega)]; omega)
      (by rw [fitsAfter_iff, hbyte (by omega), hbyte (by omega)]; omega)
      (by rw [isContinuation_iff, hbyte (by omega)]; omega)
      (by rw [isContinuation_iff, hbyte (by omega)]; omega)
    rw [code_four, hbyte (by omega), hbyte (by omega), hbyte (by omega), hbyte (by omega)] at h
    exact h.of_eq (by omega)

/-! ### Reading -/

/-- A character is read from its bytes. -/
theorem readFrom_of_coded {code : List UInt8} {n : Nat} (h : Coded code n)
    (acc : List (Option Char)) (rest : List UInt8) :
    readFrom acc (code ++ rest) = readFrom (some (Char.ofNat n) :: acc) rest := by
  have hlarge : ∀ {b : UInt8} {k : Nat}, followers b = k + 1 → ¬ b < 0x80 := by
    intro b k hb hlow
    rw [followers_of_lt b hlow] at hb
    omega
  cases h with
  | one h => rw [List.cons_append, List.nil_append, readFrom, if_pos h]
  | two h h₁ =>
    rw [List.cons_append, readFrom]
    simp [hlarge h, h, h₁]
  | three h h₁ h₂ =>
    rw [List.cons_append, readFrom]
    simp [hlarge h, h, h₁, h₂]
  | four h h₁ h₂ h₃ =>
    rw [List.cons_append, readFrom]
    simp [hlarge h, h, h₁, h₂, h₃]

/-- Reading goes on after a character, or after a gap. -/
theorem readFrom_cases (b : UInt8) (t : List UInt8) :
    (∃ code n rest, Coded code n ∧ b :: t = code ++ rest) ∨
      ∃ rest, rest.length ≤ t.length ∧
        ∀ acc, readFrom acc (b :: t) = readFrom (none :: acc) rest := by
  by_cases hb : b < 0x80
  · exact .inl ⟨[b], _, t, .one hb, rfl⟩
  by_cases hzero : followers b = 0
  · refine .inr ⟨t, Nat.le_refl _, fun acc => ?_⟩
    conv => lhs; rw [readFrom]
    simp [hb, hzero]
  cases t with
  | nil =>
    refine .inr ⟨[], Nat.le_refl _, fun acc => ?_⟩
    conv => lhs; rw [readFrom]
    simp [hb, hzero]
  | cons b₁ t₁ =>
    cases h₁ : fitsAfter b b₁ with
    | false =>
      refine .inr ⟨b₁ :: t₁, Nat.le_refl _, fun acc => ?_⟩
      conv => lhs; rw [readFrom]
      simp [hb, hzero, h₁]
    | true =>
      by_cases hone : followers b = 1
      · exact .inl ⟨[b, b₁], _, t₁, .two hone h₁, rfl⟩
      cases t₁ with
      | nil =>
        refine .inr ⟨[], by simp, fun acc => ?_⟩
        conv => lhs; rw [readFrom]
        simp [hb, hzero, h₁, hone]
      | cons b₂ t₂ =>
        cases h₂ : isContinuation b₂ with
        | false =>
          refine .inr ⟨b₂ :: t₂, by simp, fun acc => ?_⟩
          conv => lhs; rw [readFrom]
          simp [hb, hzero, h₁, hone, h₂]
        | true =>
          by_cases htwo : followers b = 2
          · exact .inl ⟨[b, b₁, b₂], _, t₂, .three htwo h₁ h₂, rfl⟩
          have hthree : followers b = 3 := by
            have hle := followers_le b
            omega
          cases t₂ with
          | nil =>
            refine .inr ⟨[], by simp, fun acc => ?_⟩
            conv => lhs; rw [readFrom]
            simp [hb, hthree, h₁, h₂]
          | cons b₃ t₃ =>
            cases h₃ : isContinuation b₃ with
            | false =>
              refine .inr ⟨b₃ :: t₃, by simp, fun acc => ?_⟩
              conv => lhs; rw [readFrom]
              simp [hb, hthree, h₁, h₂, h₃]
            | true => exact .inl ⟨[b, b₁, b₂, b₃], _, t₃, .four hthree h₁ h₂ h₃, rfl⟩

theorem Coded.ne_nil {code : List UInt8} {n : Nat} (h : Coded code n) : code ≠ [] := by
  cases h <;> exact List.cons_ne_nil _ _

/-- A byte of a single-byte form in the code of a character is all of the code. -/
theorem Coded.eq_of_mem {code : List UInt8} {n : Nat} (h : Coded code n) {b : UInt8}
    (hb : b ∈ code) (hlow : b.toNat < 0x80) : n = b.toNat := by
  -- All bytes of the longer forms are above.
  cases h with
  | one h => rw [List.mem_singleton.mp hb]
  | two h h₁ =>
    rw [followers_eq_one_iff] at h
    rw [fitsAfter_iff] at h₁
    simp only [List.mem_cons, List.not_mem_nil, or_false] at hb
    rcases hb with rfl | rfl <;> omega
  | three h h₁ h₂ =>
    rw [followers_eq_two_iff] at h
    rw [fitsAfter_iff] at h₁
    rw [isContinuation_iff] at h₂
    simp only [List.mem_cons, List.not_mem_nil, or_false] at hb
    rcases hb with rfl | rfl | rfl <;> omega
  | four h h₁ h₂ h₃ =>
    rw [followers_eq_three_iff] at h
    rw [fitsAfter_iff] at h₁
    rw [isContinuation_iff] at h₂ h₃
    simp only [List.mem_cons, List.not_mem_nil, or_false] at hb
    rcases hb with rfl | rfl | rfl | rfl <;> omega

/-- The leading byte of a byte order mark belongs to characters from `0xF000` on. -/
theorem Coded.le_of_head {code : List UInt8} {n : Nat} (h : Coded code n)
    (hhead : code.head? = some 0xEF) : 0xF000 ≤ n := by
  cases h with
  | one h =>
    obtain rfl := Option.some.inj hhead
    exact absurd h (by decide)
  | two h h₁ =>
    obtain rfl := Option.some.inj hhead
    exact absurd h (by decide)
  | three h h₁ h₂ =>
    obtain rfl := Option.some.inj hhead
    have hbyte : (0xEF : UInt8).toNat = 0xEF := rfl
    rw [code_three, hbyte]
    omega
  | four h h₁ h₂ h₃ =>
    obtain rfl := Option.some.inj hhead
    exact absurd h (by decide)

/-- What was read before stands in front. -/
theorem readFrom_eq_append (acc : List (Option Char)) (bytes : List UInt8) :
    readFrom acc bytes = acc.reverse ++ readPieces bytes := by
  -- The induction is on the length, because a character takes up to four bytes.
  induction hlength : bytes.length using Nat.strongRecOn generalizing acc bytes with
  | _ length ih =>
    subst hlength
    cases bytes with
    | nil => simp [readPieces, readFrom]
    | cons b t =>
      unfold readPieces
      rcases readFrom_cases b t with ⟨code, n, rest, hcode, heq⟩ | ⟨rest, hrest, hgap⟩
      · have hshorter : rest.length < (b :: t).length := by
          rw [heq, List.length_append]
          exact Nat.lt_add_of_pos_left (List.length_pos_iff.mpr hcode.ne_nil)
        rw [heq, readFrom_of_coded hcode, readFrom_of_coded hcode, ih _ hshorter _ _ rfl,
          ih _ hshorter [_] _ rfl]
        simp
      · have hshorter : rest.length < (b :: t).length := Nat.lt_succ_of_le hrest
        rw [hgap, hgap, ih _ hshorter _ _ rfl, ih _ hshorter [_] _ rfl]
        simp

theorem readPieces_of_coded {code : List UInt8} {n : Nat} (h : Coded code n) (rest : List UInt8) :
    readPieces (code ++ rest) = some (Char.ofNat n) :: readPieces rest := by
  rw [readPieces, readFrom_of_coded h, readFrom_eq_append]
  rfl

/-- The characters of a text are read from its bytes. -/
theorem readPieces_flatMap (cs : List Char) :
    readPieces (cs.flatMap String.utf8EncodeChar) = cs.map some := by
  induction cs with
  | nil => simp [readPieces, readFrom]
  | cons c rest ih =>
    rw [List.flatMap_cons, readPieces_of_coded (coded_utf8EncodeChar c), ih, Char.ofNat_toNat,
      List.map_cons]

/-- Bytes without gaps are those of their characters. -/
theorem eq_flatMap_of_readPieces {bytes : List UInt8} {cs : List Char}
    (h : readPieces bytes = cs.map some) : bytes = cs.flatMap String.utf8EncodeChar := by
  induction cs generalizing bytes with
  | nil =>
    cases bytes with
    | nil => rfl
    | cons b t =>
      rcases readFrom_cases b t with ⟨code, n, rest, hcode, heq⟩ | ⟨rest, -, hgap⟩
      · rw [heq, readPieces_of_coded hcode] at h
        simp at h
      · rw [readPieces, hgap, readFrom_eq_append] at h
        simp at h
  | cons c cs ih =>
    cases bytes with
    | nil => simp [readPieces, readFrom] at h
    | cons b t =>
      rcases readFrom_cases b t with ⟨code, n, rest, hcode, heq⟩ | ⟨rest, -, hgap⟩
      · rw [heq, readPieces_of_coded hcode, List.map_cons, List.cons.injEq, Option.some.injEq] at h
        rw [heq, List.flatMap_cons, ← ih h.2, ← h.1, utf8EncodeChar_of_coded hcode]
      · rw [readPieces, hgap, readFrom_eq_append] at h
        simp at h

/-! ### Texts -/

theorem map_getD_map_some (default : Char) (cs : List Char) :
    (cs.map some).map (·.getD default) = cs := by
  rw [List.map_map]
  exact List.map_id cs

/-- Pieces without gaps are given by their characters. -/
theorem eq_map_some_getD (default : Char) {pieces : List (Option Char)}
    (h : ∀ piece ∈ pieces, piece.isSome = true) :
    pieces = (pieces.map (·.getD default)).map some := by
  rw [List.map_map]
  conv => lhs; rw [← List.map_id pieces]
  refine List.map_congr_left fun piece hpiece => ?_
  obtain ⟨c, rfl⟩ := Option.isSome_iff_exists.mp (h piece hpiece)
  rfl

/-- A text is read from its bytes. -/
theorem readText?_bytesOf (s : String) : readText? (bytesOf s) = some s := by
  rw [readText?, bytesOf, readPieces_flatMap, map_getD_map_some, String.ofList_toList, if_pos]
  simp

/-- A text is read only from its bytes. -/
theorem eq_bytesOf_of_readText? {bytes : List UInt8} {s : String} (h : readText? bytes = some s) :
    bytes = bytesOf s := by
  unfold readText? at h
  dsimp only at h
  split at h
  · next hall =>
    obtain rfl := Option.some.inj h
    rw [bytesOf, String.toList_ofList]
    exact eq_flatMap_of_readPieces (eq_map_some_getD ' ' (List.all_eq_true.mp hall))
  · exact nomatch h

theorem readLossy_bytesOf (s : String) : readLossy (bytesOf s) = s := by
  rw [readLossy, bytesOf, readPieces_flatMap, map_getD_map_some, String.ofList_toList]

/-- A text without replacement characters is read only from its bytes. -/
theorem readLossy_eq_iff {bytes : List UInt8} {s : String}
    (h : Char.ofNat 0xFFFD ∉ s.toList) : readLossy bytes = s ↔ bytes = bytesOf s := by
  constructor
  · rintro rfl
    have hpieces : ∀ piece ∈ readPieces bytes, piece.isSome = true := by
      intro piece hpiece
      cases piece with
      | some c => rfl
      | none =>
        have hmem := List.mem_map_of_mem (f := (·.getD (Char.ofNat 0xFFFD))) hpiece
        exact absurd hmem (by simpa [readLossy] using h)
    apply eq_flatMap_of_readPieces
    rw [readLossy, String.toList_ofList]
    exact eq_map_some_getD _ hpieces
  · rintro rfl
    exact readLossy_bytesOf s

end CookieAuth.Text
