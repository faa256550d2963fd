import CookieAuth.Password.Basic
import CookieAuth.Proofs.Text.Base64
import CookieAuth.Proofs.Text.Basic

/-!
# Stored hashes can be read

The text that is stored for a password is cut at its dollar signs into the fields that were written.
Salt and output are written in letters that are allowed in every field, and so many of them that
neither is too short nor too long.  The password then belongs to what was read.

## Main results

* `readSalt_encode`, `readOutput_encode`: salts and outputs of the right length are read;
* `parse_hashPassword`: the stored text of a password is the hash that was made;
* `verifyPassword_eq_error_iff`: a check fails exactly if the stored text cannot be read;
* `verifyPassword_eq_decide`, `verifyPassword_hashPassword`: which passwords belong to the text that
  was stored for one, and that this one does;
* `stored_text_verifies_key`: what stored texts are read as, and which passwords belong to them.
-/

namespace CookieAuth.Password

open Text

/-! ### Letters -/

theorem letter_standard (n : Fin 64) :
    isValueChar (Base64.standard.letter n) = true ∧ (Base64.standard.letter n).utf8Size = 1 ∧
      Base64.standard.letter n ≠ '$' := by
  revert n
  decide

/-- The letters of bytes may stand in every field. -/
theorem of_mem_encodeList {bytes : List UInt8} {c : Char}
    (h : c ∈ Base64.encodeList Base64.standard bytes) :
    isValueChar c = true ∧ c.utf8Size = 1 ∧ c ≠ '$' := by
  rw [Base64.encodeList_eq_map, List.mem_map] at h
  obtain ⟨n, hn, rfl⟩ := h
  exact letter_standard ⟨n, Base64.lt_of_mem_sextets hn⟩

theorem utf8ByteSize_encode (bytes : List UInt8) :
    (Base64.encode Base64.standard bytes).utf8ByteSize = (4 * bytes.length + 2) / 3 := by
  unfold Base64.encode
  rw [utf8ByteSize_of_ascii fun c hc => (of_mem_encodeList hc).2.1, Base64.length_encodeList]

theorem checkValue_encode {bytes : List UInt8} (h : bytes.length ≤ 48) :
    checkValue (Base64.encode Base64.standard bytes) = .ok () := by
  have hshort : ¬ 64 < (Base64.encode Base64.standard bytes).utf8ByteSize := by
    rw [utf8ByteSize_encode]
    omega
  have hchars : (Base64.encode Base64.standard bytes).toList.find? (!isValueChar ·) = none := by
    rw [List.find?_eq_none]
    intro c hc
    rw [Base64.encode, String.toList_ofList] at hc
    simp [(of_mem_encodeList hc).1]
  unfold checkValue
  rw [if_neg hshort, hchars]

/-- Salts of the right length are read. -/
theorem readSalt_encode {bytes : List UInt8} (hmin : 3 ≤ bytes.length) (hmax : bytes.length ≤ 48) :
    readSalt (Base64.encode Base64.standard bytes) = .ok (Base64.encode Base64.standard bytes) := by
  have hlong : ¬ (Base64.encode Base64.standard bytes).utf8ByteSize < 4 := by
    rw [utf8ByteSize_encode]
    omega
  unfold readSalt
  rw [if_neg hlong, checkValue_encode hmax]

/-- Outputs of the right length are read. -/
theorem readOutput_encode {bytes : List UInt8} (hmin : 10 ≤ bytes.length)
    (hmax : bytes.length ≤ 64) :
    readOutput (Base64.encode Base64.standard bytes) = .ok bytes := by
  have hlength : ¬ 64 < decodedLength (Base64.encode Base64.standard bytes).utf8ByteSize := by
    rw [utf8ByteSize_encode, decodedLength]
    omega
  unfold readOutput
  rw [if_neg hlength, Base64.decode?_encode Base64.faithful_standard]
  exact if_neg (by omega)

/-! ### Fields -/

variable (kdf : KeyDerivation) {salt : List UInt8} (password : String)

/-- The text of a new hash is cut into its fields. -/
theorem splitAll_hashPassword :
    (splitAll '$' (hashPassword kdf salt password).toList).map String.ofList
      = ["", "argon2id", "v=19", "m=19456,t=2,p=1", Base64.encode Base64.standard salt,
        Base64.encode Base64.standard (kdf.derive (freshInput salt password))] := by
  have htext : (hashPassword kdf salt password).toList
      = [] ++ '$' :: ("argon2id".toList ++ '$' :: ("v=19".toList ++ '$' :: ("m=19456,t=2,p=1".toList
        ++ '$' :: (Base64.encodeList Base64.standard salt ++ '$'
          :: Base64.encodeList Base64.standard (kdf.derive (freshInput salt password)))))) := by
    have hrender : hashPassword kdf salt password = "$" ++ ("argon2id" ++ "$" ++ "v=19" ++ "$"
        ++ "m=19456,t=2,p=1" ++ "$" ++ Base64.encode Base64.standard salt ++ "$"
        ++ Base64.encode Base64.standard (kdf.derive (freshInput salt password))) := rfl
    rw [hrender]
    simp [Base64.encode]
  have hletters : ∀ bytes, '$' ∉ Base64.encodeList Base64.standard bytes :=
    fun bytes hmem => (of_mem_encodeList hmem).2.2 rfl
  rw [htext, splitAll_append_cons (by simp), splitAll_append_cons (by decide),
    splitAll_append_cons (by decide), splitAll_append_cons (by decide),
    splitAll_append_cons (hletters _), splitAll_of_not_mem (hletters _)]
  simp [Base64.encode]

/-- The version of a new hash is read. -/
theorem takeVersion_fresh (rest : List String) :
    takeVersion ("v=19" :: rest) = .ok (some 19, rest) := by
  have hversion : isVersionField "v=19" = true := by decide +kernel
  have hnumber : readVersion (String.ofList ("v=19".toList.drop 2)) = .ok 19 :=
    eq_ok_of_toOption (by decide +kernel)
  rw [takeVersion, if_pos hversion, hnumber]
  rfl

/-- The parameters of a new hash are read. -/
theorem takeParams_fresh (rest : List String) :
    takeParams ("m=19456,t=2,p=1" :: rest)
      = .ok ([("m", "19456"), ("t", "2"), ("p", "1")], rest) :=
  rfl

/-- The stored text of a password is the hash that was made. -/
theorem parse_hashPassword (hmin : 3 ≤ salt.length) (hmax : salt.length ≤ 48) :
    StoredHash.parse (hashPassword kdf salt password) = .ok (freshHash kdf salt password) := by
  have houtput : (kdf.derive (freshInput salt password)).length = 32 := kdf.length_derive _
  have hbytes : readOutput (Base64.encode Base64.standard (kdf.derive (freshInput salt password)))
      = .ok (kdf.derive (freshInput salt password)) := readOutput_encode (by omega) (by omega)
  have hname : readName "argon2id" = .ok "argon2id" := rfl
  have hbefore : "".isEmpty = true := rfl
  unfold StoredHash.parse
  rw [splitAll_hashPassword]
  simp only [hbefore, if_true, hname, Except.bind, readFields, bind, takeVersion_fresh,
    takeParams_fresh, readOptional, List.getElem?_cons_zero, List.getElem?_cons_succ,
    readSalt_encode hmin hmax, hbytes, Except.map, List.length_cons, List.length_nil]
  rfl

theorem variant?_fresh : variant? "argon2id" = some .id := by
  decide

/-- The costs of a new hash are the usual ones. -/
theorem costs?_fresh : costs? [("m", "19456"), ("t", "2"), ("p", "1")] = some {} := by
  have hmemory : number? "19456" = some 19456 := by decide +kernel
  have hpasses : number? "2" = some 2 := by decide +kernel
  have hlanes : number? "1" = some 1 := by decide +kernel
  simp [costs?, Costs.set?, hmemory, hpasses, hlanes, Costs.admissible]

/-- A new hash describes how its output was derived, for whatever password is tried. -/
theorem input?_freshHash (hmin : 8 ≤ salt.length) (other : String) :
    (freshHash kdf salt password).input? 32 other = some (freshInput salt other) := by
  have hsalt : Option.filter (8 ≤ ·.length)
      (Base64.decode? Base64.standard (Base64.encode Base64.standard salt)) = some salt := by
    rw [Base64.decode?_encode Base64.faithful_standard, Option.filter_some_pos (by simpa using hmin)]
  unfold StoredHash.input? freshHash
  simp only [variant?_fresh, version?, costs?_fresh, Option.bind_some, hsalt, bind, pure]
  rfl

/-- Whether a check fails does not depend on the password: the stored text cannot be read. -/
theorem verifyPassword_eq_error_iff {kdf : KeyDerivation} {password stored : String}
    {e : HashError} :
    verifyPassword kdf password stored = .error e ↔ StoredHash.parse stored = .error e := by
  unfold verifyPassword
  cases StoredHash.parse stored <;> simp [Except.map]

/-- A password belongs to the text that was stored for another one if both have the same key. -/
theorem verifyPassword_eq_decide (hmin : 8 ≤ salt.length) (hmax : salt.length ≤ 48)
    (other : String) :
    verifyPassword kdf other (hashPassword kdf salt password)
      = .ok (decide (kdf.derive (freshInput salt other) = kdf.derive (freshInput salt password))) := by
  have houtput : (kdf.derive (freshInput salt password)).length = 32 := kdf.length_derive _
  have hverify : (freshHash kdf salt password).verify kdf other
      = decide (kdf.derive (freshInput salt other) = kdf.derive (freshInput salt password)) := by
    unfold StoredHash.verify
    rw [show (freshHash kdf salt password).output
      = some (kdf.derive (freshInput salt password)) from rfl]
    dsimp only
    rw [houtput, input?_freshHash kdf password hmin other]
    rw [Bool.eq_iff_iff, beq_iff_eq, decide_eq_true_iff]
  rw [verifyPassword, parse_hashPassword kdf password (by omega) hmax]
  exact congrArg Except.ok hverify

/-- A password belongs to the text that was stored for it. -/
theorem verifyPassword_hashPassword (hmin : 8 ≤ salt.length) (hmax : salt.length ≤ 48) :
    verifyPassword kdf password (hashPassword kdf salt password) = .ok true := by
  rw [verifyPassword_eq_decide kdf password hmin hmax, decide_eq_true rfl]

/-- The text that is stored for a password under a salt of 16 bytes is read as what was written: the
algorithm, its version, the costs, the salt and an output of 32 bytes.  So the password belongs to
it, and every other one is checked too and belongs to it exactly if it has the same key. -/
theorem stored_text_verifies_key (kdf : KeyDerivation) (salt : List UInt8)
    (hsalt : salt.length = 16) (password : String) :
    (∃ h, StoredHash.parse (hashPassword kdf salt password) = .ok h ∧
      h.algorithm = "argon2id" ∧ variant? h.algorithm = some .id ∧
      h.version = some 19 ∧ version? h.version = some .v19 ∧
      h.params = [("m", "19456"), ("t", "2"), ("p", "1")] ∧
      costs? h.params = some { memory := 19456, passes := 2, lanes := 1, data := [] } ∧
      h.salt.bind (Base64.decode? Base64.standard) = some salt ∧
      h.output = some (kdf.derive (freshInput salt password)) ∧
      (kdf.derive (freshInput salt password)).length = 32) ∧
    verifyPassword kdf password (hashPassword kdf salt password) = .ok true ∧
    ∀ other, verifyPassword kdf other (hashPassword kdf salt password)
      = .ok (decide (kdf.derive (freshInput salt other)
        = kdf.derive (freshInput salt password))) := by
  have hdecode := Base64.decode?_encode Base64.faithful_standard salt
  have hmin : 8 ≤ salt.length := by omega
  have hmax : salt.length ≤ 48 := by omega
  refine ⟨⟨freshHash kdf salt password, parse_hashPassword kdf password (by omega) hmax, rfl,
    variant?_fresh, rfl, rfl, rfl, costs?_fresh, hdecode, rfl, kdf.length_derive _⟩, ?_, ?_⟩
  · exact verifyPassword_hashPassword kdf password hmin hmax
  · exact verifyPassword_eq_decide kdf password hmin hmax

/-- The salt of an example. -/
def plainSalt : List UInt8 := List.replicate 16 7

/-- A password belongs to what the service stores for it, and one that is misspelt would only if it
had the same key. -/
theorem sesame_verifies :
    plainSalt.length = 16 ∧
    verifyPassword argon2 "open sesame" (hashPassword argon2 plainSalt "open sesame") = .ok true ∧
    verifyPassword argon2 "open sesamé" (hashPassword argon2 plainSalt "open sesame")
      = .ok (decide (argon2.derive (freshInput plainSalt "open sesamé")
        = argon2.derive (freshInput plainSalt "open sesame"))) := by
  obtain ⟨-, hself, hother⟩ :=
    stored_text_verifies_key argon2 plainSalt (by decide) "open sesame"
  exact ⟨by decide, hself, hother "open sesamé"⟩

end CookieAuth.Password
