import CookieAuth.Email.Address
import CookieAuth.Proofs.Text.Basic
import CookieAuth.Proofs.Text.Lowercase

/-!
# Hosts up to case

Whether a text is a host does not depend on the case of its ASCII letters.  The statement is proved
for each part of a host in turn.

## Main results

* `isHostName_map_lowerAscii`, `endsWithLiteral_map_lowerAscii`: the two kinds of hosts;
* `Domain.toAscii?_map_lowerAscii`: the ASCII form of a domain name;
* `isHostPart_map_lowerAscii`: what may stand after the at sign.
-/

namespace CookieAuth

open Text

namespace Email

/-! ### Host names -/

theorem all_map_lowerAscii (p : Char → Bool)
    (hp : ∀ n : Fin 128, p (lowerAscii (Char.ofNat n)) = p (Char.ofNat n)) (cs : List Char) :
    (cs.map lowerAscii).all p = cs.all p := by
  rw [List.all_map]
  exact congrArg cs.all (funext (comp_lowerAscii p hp))

theorem map_lowerAscii_eq_some_iff (d : Char)
    (hd : ∀ n : Fin 128, decide (lowerAscii (Char.ofNat n) = d) = decide (Char.ofNat n = d))
    (o : Option Char) : o.map lowerAscii = some d ↔ o = some d := by
  cases o with
  | none => simp
  | some c =>
    have hc := comp_lowerAscii (fun c => decide (c = d)) hd c
    simpa using hc

theorem isAsciiAlphanumeric_lowerAscii (c : Char) :
    isAsciiAlphanumeric (lowerAscii c) = isAsciiAlphanumeric c :=
  comp_lowerAscii isAsciiAlphanumeric (by decide +kernel) c

theorem any_map_lowerAscii (o : Option Char) :
    (o.map lowerAscii).any isAsciiAlphanumeric = o.any isAsciiAlphanumeric := by
  cases o with
  | none => rfl
  | some c => exact isAsciiAlphanumeric_lowerAscii c

theorem isHostLabel_map_lowerAscii (label : List Char) :
    isHostLabel (label.map lowerAscii) = isHostLabel label := by
  have hall := all_map_lowerAscii (fun c => isAsciiAlphanumeric c || c = '-') (by decide +kernel)
    label
  unfold isHostLabel
  rw [List.length_map, hall, List.head?_map, List.getLast?_map, any_map_lowerAscii,
    any_map_lowerAscii]

theorem splitAll_point_map_lowerAscii (cs : List Char) :
    splitAll '.' (cs.map lowerAscii) = (splitAll '.' cs).map (List.map lowerAscii) :=
  splitAll_map (comp_lowerAscii (· == '.') (by decide +kernel)) cs

theorem isHostName_map_lowerAscii (cs : List Char) :
    isHostName (cs.map lowerAscii) = isHostName cs := by
  unfold isHostName
  rw [splitAll_point_map_lowerAscii, List.all_map]
  exact congrArg _ (funext isHostLabel_map_lowerAscii)

/-! ### Internet addresses -/

theorem isOctet_map_lowerAscii (cs : List Char) : isOctet (cs.map lowerAscii) = isOctet cs := by
  have hdigit := comp_lowerAscii Integer.digit? (by decide +kernel)
  have hall := all_map_lowerAscii (fun c => (Integer.digit? c).isSome) (by decide +kernel) cs
  have hzero := map_lowerAscii_eq_some_iff '0' (by decide +kernel) cs.head?
  unfold isOctet
  rw [List.isEmpty_map, List.length_map, hall, List.head?_map, List.foldl_map]
  simp only [hdigit, ne_eq, hzero]

theorem isIpV4_map_lowerAscii (cs : List Char) : isIpV4 (cs.map lowerAscii) = isIpV4 cs := by
  simp only [isIpV4]
  rw [splitAll_point_map_lowerAscii, List.length_map, List.all_map]
  exact congrArg _ (congrArg _ (funext isOctet_map_lowerAscii))

theorem isGroup_map_lowerAscii (cs : List Char) : isGroup (cs.map lowerAscii) = isGroup cs := by
  have hall := all_map_lowerAscii
    (fun c => ('0' ≤ c && c ≤ '9') || ('a' ≤ c && c ≤ 'f') || ('A' ≤ c && c ≤ 'F'))
    (by decide +kernel) cs
  unfold isGroup
  rw [List.isEmpty_map, List.length_map, hall]

theorem groupCount?_map_lowerAscii (lastMayBeV4 : Bool) (parts : List (List Char)) :
    groupCount? lastMayBeV4 (parts.map (List.map lowerAscii)) = groupCount? lastMayBeV4 parts := by
  induction parts with
  | nil => rfl
  | cons part rest ih =>
    cases rest with
    | nil => simp [groupCount?, isGroup_map_lowerAscii, isIpV4_map_lowerAscii]
    | cons next rest =>
      have hstep : ∀ p q ps, groupCount? lastMayBeV4 (p :: q :: ps)
          = if isGroup p then (groupCount? lastMayBeV4 (q :: ps)).map (· + 1) else none :=
        fun _ _ _ => rfl
      rw [List.map_cons] at ih
      rw [List.map_cons, List.map_cons, hstep, hstep, isGroup_map_lowerAscii, ih]

/-- The rest of a text after a pair of colons, or else after one character. -/
theorem splitGap?_cons (before : List Char) (c : Char) (rest : List Char) :
    splitGap? before (c :: rest)
      = if c = ':' ∧ rest.head? = some ':' then some (before.reverse, rest.tail)
        else splitGap? (c :: before) rest := by
  cases rest with
  | nil =>
    simp [splitGap?]
  | cons d rest =>
    split
    · next h =>
      obtain ⟨rfl, hd⟩ := h
      obtain rfl := Option.some.inj hd
      rfl
    · next h =>
      rw [splitGap?]
      intro rest' hc hrest
      exact h ⟨hc, by rw [hrest]; rfl⟩

theorem splitGap?_map_lowerAscii (before cs : List Char) :
    splitGap? (before.map lowerAscii) (cs.map lowerAscii)
      = (splitGap? before cs).map (Prod.map (List.map lowerAscii) (List.map lowerAscii)) := by
  induction cs generalizing before with
  | nil => rfl
  | cons c rest ih =>
    have hcolon := map_lowerAscii_eq_some_iff ':' (by decide +kernel)
    have hfirst : lowerAscii c = ':' ↔ c = ':' := by simpa using hcolon (some c)
    rw [List.map_cons, splitGap?_cons, splitGap?_cons, List.head?_map]
    simp only [hcolon, hfirst]
    split
    · simp
    · exact ih (c :: before)

theorem groups_map_lowerAscii (cs : List Char) :
    groups (cs.map lowerAscii) = (groups cs).map (List.map lowerAscii) := by
  unfold groups
  rw [List.isEmpty_map, splitAll_map (comp_lowerAscii (· == ':') (by decide +kernel))]
  split <;> rfl

theorem isIpV6_map_lowerAscii (cs : List Char) : isIpV6 (cs.map lowerAscii) = isIpV6 cs := by
  have hgap := splitGap?_map_lowerAscii [] cs
  rw [List.map_nil] at hgap
  unfold isIpV6
  rw [hgap]
  cases splitGap? [] cs with
  | none => simp only [Option.map_none, groups_map_lowerAscii, groupCount?_map_lowerAscii]
  | some parts =>
    simp only [Option.map_some, Prod.map, groups_map_lowerAscii, groupCount?_map_lowerAscii]

theorem endsWithLiteral_map_lowerAscii (cs : List Char) :
    endsWithLiteral (cs.map lowerAscii) = endsWithLiteral cs := by
  unfold endsWithLiteral
  rw [← List.map_reverse]
  cases cs.reverse with
  | nil => rfl
  | cons c rest =>
    rw [List.map_cons]
    by_cases hc : c = ']'
    · subst hc
      have hopen := splitFirst?_map (comp_lowerAscii (· == '[') (by decide +kernel)) rest
      simp only [show lowerAscii ']' = ']' from rfl, hopen]
      cases splitFirst? '[' rest with
      | none => rfl
      | some parts =>
        simp only [Option.map_some, Prod.map, ← List.map_reverse, isIpV4_map_lowerAscii,
          isIpV6_map_lowerAscii]
    · have hlower : lowerAscii c ≠ ']' := by
        have hbracket := map_lowerAscii_eq_some_iff ']' (by decide +kernel) (some c)
        simpa [hc] using hbracket
      -- Neither text ends with a bracket.
      split
      · next h => exact absurd (List.cons.inj h).1 hlower
      · split
        · next h => exact absurd (List.cons.inj h).1 hc
        · rfl

theorem isHost_map_lowerAscii (cs : List Char) : isHost (cs.map lowerAscii) = isHost cs := by
  unfold isHost
  rw [isHostName_map_lowerAscii, endsWithLiteral_map_lowerAscii]

end Email

/-! ### Domain names -/

namespace Domain

theorem mapChar?_lowerAscii (c : Char) : mapChar? (lowerAscii c) = mapChar? c := by
  by_cases hc : c.toNat < 128
  · rw [mapChar?, mapChar?, if_pos hc, if_pos (toNat_lowerAscii_lt hc), lowerAscii_lowerAscii]
  · rw [lowerAscii_of_not_ascii hc]

/-- The case of ASCII letters is the first thing that gets lost. -/
theorem mapChars?_map_lowerAscii (cs : List Char) :
    mapChars? (cs.map lowerAscii) = mapChars? cs := by
  unfold mapChars?
  rw [List.mapM_map]
  exact congrArg (fun f => (cs.mapM f).map List.flatten) (funext mapChar?_lowerAscii)

theorem toAscii?_map_lowerAscii (domain : List Char) :
    toAscii? (domain.map lowerAscii) = toAscii? domain := by
  unfold toAscii?
  rw [mapChars?_map_lowerAscii]

end Domain

/-- Whether a text may stand after the at sign does not depend on the case of ASCII letters. -/
theorem Email.isHostPart_map_lowerAscii (cs : List Char) :
    isHostPart (cs.map lowerAscii) = isHostPart cs := by
  unfold isHostPart
  rw [List.length_map, isHost_map_lowerAscii, Domain.toAscii?_map_lowerAscii]

end CookieAuth
