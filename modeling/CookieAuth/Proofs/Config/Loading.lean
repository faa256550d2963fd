import CookieAuth.Config.Basic
import CookieAuth.Proofs.Text.Utf8

/-!
# Loading an environment file

Loading keeps the variables that are set, and it does not fail on lines that cannot be read.  What
it does not survive is an assignment that sets a variable to a text with a zero character.  All
characters of a value come from the file or from other values, so a file without a zero byte is
harmless.

## Main definitions

* `Dotenv.Sets`: the assignments that loading gets to and that are for a variable which is not set;
* `Environment.Consists`: all characters of the values satisfy a condition.

## Main results

* `Dotenv.get?_loadLines`: loading keeps the variables that are set;
* `Dotenv.loadLines_eq_error_iff`: which assignment ends the process;
* `Dotenv.ValueReader.out_step`, `Dotenv.consists_run`: where the characters of a value come from;
* `Dotenv.Sets.consists`: the same for the values that loading sets;
* `Dotenv.not_sets_zero`: a file without a zero byte sets nothing that ends the process.
-/

namespace CookieAuth.Config

open Text

namespace Dotenv

/-! ### What is set -/

/-- Loading some lines gets to an assignment for a variable that is not set. -/
inductive Sets : Environment → List (String × String) → List (Option (List Char)) →
    String → String → Prop
  /-- The first line assigns it. -/
  | here {env : Environment} {assigned : List (String × String)} {cs : List Char}
    {lines : List (Option (List Char))} {name value : String}
    (hline : readLine (valueOf env assigned) cs = .assign name value)
    (hunset : env.get? name = none) : Sets env assigned (some cs :: lines) name value
  /-- The first line says nothing. -/
  | skip {env : Environment} {assigned : List (String × String)} {cs : List Char}
    {lines : List (Option (List Char))} {name value : String}
    (hline : readLine (valueOf env assigned) cs = .nothing)
    (hlater : Sets env assigned lines name value) : Sets env assigned (some cs :: lines) name value
  /-- The first line assigns something else, and loading goes on. -/
  | next {env env' : Environment} {assigned : List (String × String)} {cs : List Char}
    {lines : List (Option (List Char))} {first text name value : String}
    (hline : readLine (valueOf env assigned) cs = .assign first text)
    (hset : env.setDefault first text = .ok env')
    (hlater : Sets env' ((first, text) :: assigned) lines name value) :
    Sets env assigned (some cs :: lines) name value

variable {env env' : Environment} {assigned : List (String × String)}
  {lines : List (Option (List Char))} {name value : String} {crash : Environment.Crash}

/-- Loading lines keeps the variables that are set. -/
theorem get?_loadLines (hload : loadLines env assigned lines = .ok env')
    (h : env.get? name = some value) : env'.get? name = some value := by
  fun_induction loadLines env assigned lines with
  | case1 => exact Except.ok.inj hload ▸ h
  | case2 => exact Except.ok.inj hload ▸ h
  | case3 env assigned cs lines _ ih => exact ih hload h
  | case4 => exact Except.ok.inj hload ▸ h
  | case5 => exact nomatch hload
  | case6 env assigned cs lines other text _ env₁ hset ih =>
    refine ih hload ?_
    rw [Environment.get?_of_setDefault hset]
    split
    · next heq => rw [← heq, h, Option.getD_some]
    · exact h

/-- Loading ends the process exactly at an assignment that would set a variable to a text with a
zero character. -/
theorem loadLines_eq_error_iff :
    loadLines env assigned lines = .error crash ↔
      Sets env assigned lines crash.name crash.value := by
  constructor
  · intro h
    fun_induction loadLines env assigned lines with
    | case1 => exact nomatch h
    | case2 => exact nomatch h
    | case3 env assigned cs lines hline ih => exact .skip hline (ih h)
    | case4 => exact nomatch h
    | case5 env assigned cs lines first text hline cause hset =>
      obtain rfl := Except.error.inj h
      obtain ⟨hunset, rfl, rfl⟩ := Environment.setDefault_eq_error_iff.mp hset
      exact .here hline hunset
    | case6 env assigned cs lines first text hline env₁ hset ih => exact .next hline hset (ih h)
  · intro h
    generalize hname : crash.name = name at h
    generalize hvalue : crash.value = value at h
    induction h with
    | here hline hunset =>
      have hset := Environment.setDefault_eq_error_iff.mpr ⟨hunset, hname, hvalue⟩
      rw [loadLines, hline]
      dsimp only
      rw [hset]
    | skip hline _ ih =>
      rw [loadLines, hline]
      exact ih hname hvalue
    | next hline hset _ ih =>
      rw [loadLines, hline]
      dsimp only
      rw [hset]
      exact ih hname hvalue

end Dotenv

/-! ### Where characters come from -/

/-- All characters of the values satisfy a condition. -/
def Environment.Consists (p : Char → Prop) (env : Environment) : Prop :=
  ∀ name, ∀ value ∈ env.get? name, ∀ ch ∈ value.toList, p ch

namespace Environment

variable {p : Char → Prop} {env env' : Environment} {name value : String}

theorem Consists.cons {vars : List (String × String)} (h : Consists p ⟨vars⟩)
    (hvalue : ∀ ch ∈ value.toList, p ch) : Consists p ⟨(name, value) :: vars⟩ := by
  intro other text htext
  rw [get?_cons] at htext
  split at htext
  · exact Option.some.inj htext ▸ hvalue
  · exact h other text htext

theorem Consists.setDefault (h : env.Consists p) (hvalue : ∀ ch ∈ value.toList, p ch)
    (hset : env.setDefault name value = .ok env') : env'.Consists p := by
  intro other text htext
  rw [get?_of_setDefault hset] at htext
  split at htext
  · obtain rfl := Option.some.inj htext
    cases hheld : env.get? name with
    | none => exact hvalue
    | some held => exact h name held hheld
  · exact h other text htext

/-- A reference stands for the end of a value. -/
theorem Consists.reference? (h : env.Consists p) (hvalue : env.reference? name = some value) :
    ∀ ch ∈ value.toList, p ch := by
  unfold Environment.reference? at hvalue
  split at hvalue
  · exact h name value hvalue
  · next first start _ =>
    obtain ⟨held, hheld, hmap⟩ := Option.bind_eq_some_iff.mp hvalue
    obtain ⟨rest, hrest, heq⟩ := Option.map_eq_some_iff.mp hmap
    obtain rfl := heq
    unfold afterBeginning? at hrest
    split at hrest
    · obtain rfl := Option.some.inj hrest
      intro ch hch
      rw [String.toList_ofList] at hch
      exact h _ held hheld ch (List.mem_of_mem_drop hch)
    · exact nomatch hrest

end Environment

namespace Dotenv

variable {p : Char → Prop}

theorem consists_valueOf {env : Environment} {assigned : List (String × String)}
    (henv : env.Consists p) (hassigned : Environment.Consists p ⟨assigned⟩) (name : String) :
    ∀ ch ∈ (valueOf env assigned name).toList, p ch := by
  unfold valueOf
  cases hreference : env.reference? name with
  | some value => exact henv.reference? hreference
  | none =>
    rw [Option.orElse_none]
    cases hlookup : assigned.lookup name with
    | some value => exact hassigned name value hlookup
    | none => simp

namespace ValueReader

variable {lookup : String → String} {r r' : ValueReader} {c : Char}

theorem out_substitute (hlookup : ∀ name, ∀ ch ∈ (lookup name).toList, p ch)
    (hout : ∀ ch ∈ r.out, p ch) (cs : List Char) : ∀ ch ∈ (r.substitute lookup cs).out, p ch := by
  intro ch hch
  rcases List.mem_append.mp hch with hvalue | hbefore
  · exact hlookup _ ch (List.mem_reverse.mp hvalue)
  · exact hout ch hbefore

theorem out_push (hout : ∀ ch ∈ r.out, p ch) (hc : p c) : ∀ ch ∈ (r.push c).out, p ch :=
  List.forall_mem_cons.mpr ⟨hc, hout⟩

/-- One step puts in place the character itself, a line feed for an escape, or a value. -/
theorem out_step (hfeed : p '\n') (hlookup : ∀ name, ∀ ch ∈ (lookup name).toList, p ch)
    (hout : ∀ ch ∈ r.out, p ch) (hc : p c) (h : r.step lookup c = some r') :
    ∀ ch ∈ r'.out, p ch := by
  have hpush := out_push hout hc
  unfold step at h
  split at h
  case h_1 =>
    split at h
    · exact Option.some.inj h ▸ hout
    · exact nomatch h
  case h_2 =>
    obtain ⟨ch, hescaped, rfl⟩ := Option.map_eq_some_iff.mp h
    refine out_push hout ?_
    unfold escapedChar? at hescaped
    split at hescaped
    · exact Option.some.inj hescaped ▸ hfeed
    · split at hescaped
      · exact Option.some.inj hescaped ▸ hc
      · exact nomatch hescaped
  case h_3 =>
    obtain rfl := Option.some.inj h
    split
    · exact hout
    · exact hpush
  case h_4 cs _ =>
    obtain rfl := Option.some.inj h
    have hvalue := out_substitute hlookup hout cs
    unfold stepName
    split
    · exact hout
    split
    · exact hout
    split
    · exact hvalue
    · exact out_push hvalue hc
  case h_5 cs _ =>
    obtain rfl := Option.some.inj h
    split
    · exact out_substitute hlookup hout cs
    · exact hout
  case h_6 =>
    obtain rfl := Option.some.inj h
    unfold stepText
    split
    · exact hout
    split
    · exact hout
    split
    · exact hout
    split
    · exact hpush
    split
    · exact hout
    split
    · exact hout
    · exact hpush

theorem consists_finish (hlookup : ∀ name, ∀ ch ∈ (lookup name).toList, p ch)
    (hout : ∀ ch ∈ r.out, p ch) {value : String} (h : r.finish lookup = some value) :
    ∀ ch ∈ value.toList, p ch := by
  have hreverse : ∀ {out : List Char}, (∀ ch ∈ out, p ch) → String.ofList out.reverse = value →
      ∀ ch ∈ value.toList, p ch := by
    rintro out hall rfl ch hch
    rw [String.toList_ofList, List.mem_reverse] at hch
    exact hall ch hch
  unfold finish at h
  split at h
  · exact nomatch h
  · split at h
    · exact nomatch h
    · exact nomatch h
    · next cs _ => exact hreverse (out_substitute hlookup hout cs) (Option.some.inj h)
    · exact hreverse hout (Option.some.inj h)

end ValueReader

/-- All characters of a value come from the text that stands for it or from other values. -/
theorem consists_run {lookup : String → String} {r : ValueReader} {cs : List Char} {value : String}
    (hfeed : p '\n') (hlookup : ∀ name, ∀ ch ∈ (lookup name).toList, p ch)
    (hout : ∀ ch ∈ r.out, p ch) (hcs : ∀ ch ∈ cs, p ch) (h : r.run lookup cs = some value) :
    ∀ ch ∈ value.toList, p ch := by
  induction cs generalizing r with
  | nil => exact ValueReader.consists_finish hlookup hout h
  | cons c cs ih =>
    obtain ⟨hc, hcs⟩ := List.forall_mem_cons.mp hcs
    rw [ValueReader.run] at h
    split at h
    · exact ValueReader.consists_finish hlookup hout h
    · split at h
      · exact nomatch h
      · next r' hstep => exact ih (ValueReader.out_step hfeed hlookup hout hc hstep) hcs h

theorem mem_of_readName? {cs name rest : List Char} (h : readName? cs = some (name, rest)) :
    ∀ ch ∈ rest, ch ∈ cs := by
  unfold readName? at h
  split at h
  · exact nomatch h
  · next c cs =>
    split at h
    · obtain ⟨-, rfl⟩ := Prod.mk.inj (Option.some.inj h)
      intro ch hch
      have hafter := (List.dropWhile_sublist _).subset hch
      exact List.mem_cons_of_mem _ ((List.dropWhile_sublist _).subset hafter)
    · exact nomatch h

theorem mem_of_afterEqual? {cs rest : List Char} (h : afterEqual? cs = some rest) :
    ∀ ch ∈ rest, ch ∈ cs := by
  unfold afterEqual? at h
  split at h
  · obtain rfl := Option.some.inj h
    exact fun ch hch => List.mem_cons_of_mem _ hch
  · exact nomatch h

theorem mem_of_readTarget? {cs name rest : List Char} (h : readTarget? cs = some (name, rest)) :
    ∀ ch ∈ rest, ch ∈ cs := by
  unfold readTarget? at h
  split at h
  · exact nomatch h
  · next first after hfirst =>
    split at h
    · next rest' hequal =>
      obtain ⟨-, rfl⟩ := Prod.mk.inj (Option.some.inj h)
      exact fun ch hch => mem_of_readName? hfirst ch (mem_of_afterEqual? hequal ch hch)
    · split at h
      · obtain ⟨⟨second, after'⟩, hsecond, hrest⟩ := Option.bind_eq_some_iff.mp h
        obtain ⟨rest', hequal, heq⟩ := Option.map_eq_some_iff.mp hrest
        obtain ⟨-, rfl⟩ := Prod.mk.inj heq
        intro ch hch
        exact mem_of_readName? hfirst ch
          (mem_of_readName? hsecond ch (mem_of_afterEqual? hequal ch hch))
      · exact nomatch h

theorem consists_readLine {lookup : String → String} {cs : List Char} {name value : String}
    (hfeed : p '\n') (hlookup : ∀ name, ∀ ch ∈ (lookup name).toList, p ch)
    (hcs : ∀ ch ∈ cs, p ch) (h : readLine lookup cs = .assign name value) :
    ∀ ch ∈ value.toList, p ch := by
  unfold readLine at h
  dsimp only at h
  split at h
  · exact nomatch h
  · split at h
    · exact nomatch h
    · next target rest htarget =>
      split at h
      · obtain ⟨-, rfl⟩ := Line.assign.inj h
        simp
      · split at h
        · exact nomatch h
        · next text hread =>
          obtain ⟨-, rfl⟩ := Line.assign.inj h
          refine consists_run hfeed hlookup (by simp) (fun ch hch => ?_) hread
          have hrest := (List.dropWhile_sublist _).subset hch
          exact hcs ch (mem_of_mem_trimList (mem_of_readTarget? htarget ch hrest))

/-- All characters of what loading sets come from the lines or from other values. -/
theorem Sets.consists {env : Environment} {assigned : List (String × String)}
    {lines : List (Option (List Char))} {name value : String}
    (h : Sets env assigned lines name value) (hfeed : p '\n') (henv : env.Consists p)
    (hassigned : Environment.Consists p ⟨assigned⟩)
    (hlines : ∀ cs, some cs ∈ lines → ∀ ch ∈ cs, p ch) : ∀ ch ∈ value.toList, p ch := by
  induction h with
  | here hline _ =>
    exact consists_readLine hfeed (consists_valueOf henv hassigned)
      (hlines _ List.mem_cons_self) hline
  | skip _ _ ih =>
    exact ih henv hassigned fun cs hcs => hlines cs (List.mem_cons_of_mem _ hcs)
  | next hline hset _ ih =>
    have htext := consists_readLine hfeed (consists_valueOf henv hassigned)
      (hlines _ List.mem_cons_self) hline
    exact ih (henv.setDefault htext hset) (hassigned.cons htext) fun cs hcs =>
      hlines cs (List.mem_cons_of_mem _ hcs)

/-! ### The characters of a file -/

theorem mem_of_scan {place : Place} {seen cs : List Char} :
    ∀ ch ∈ (scan place seen cs).1, ch ∈ seen ∨ ch ∈ cs := by
  induction cs generalizing place seen with
  | nil => exact fun ch hch => .inl (List.mem_reverse.mp hch)
  | cons c cs ih =>
    intro ch hch
    rw [scan] at hch
    split at hch
    · exact .inl (List.mem_reverse.mp hch)
    · rcases ih ch hch with hseen | hcs
      · rcases List.mem_cons.mp hseen with rfl | hseen
        · exact .inr List.mem_cons_self
        · exact .inl hseen
      · exact .inr (List.mem_cons_of_mem _ hcs)

theorem mem_of_mem_dropLineEnd {cs : List Char} {ch : Char} (h : ch ∈ dropLineEnd cs) :
    ch ∈ cs := by
  unfold dropLineEnd at h
  split at h
  · next rest heq =>
    rw [← List.mem_reverse, heq]
    exact List.mem_cons_of_mem _ (List.mem_cons_of_mem _ (List.mem_reverse.mp h))
  · next rest heq =>
    rw [← List.mem_reverse, heq]
    exact List.mem_cons_of_mem _ (List.mem_reverse.mp h)
  · exact h

/-- Logical lines are made of the characters of physical lines. -/
theorem consists_joinLines {buffer : List Char} {place : Place} {lines : List (Option (List Char))}
    (hbuffer : ∀ ch ∈ buffer, p ch) (hlines : ∀ text, some text ∈ lines → ∀ ch ∈ text, p ch) :
    ∀ cs, some cs ∈ joinLines buffer place lines → ∀ ch ∈ cs, p ch := by
  intro cs hcs
  induction lines generalizing buffer place with
  | nil =>
    rw [joinLines] at hcs
    split at hcs <;> simp at hcs
  | cons line lines ih =>
    have hlater : ∀ text, some text ∈ lines → ∀ ch ∈ text, p ch := fun text htext =>
      hlines text (List.mem_cons_of_mem _ htext)
    cases line with
    | none => simp [joinLines] at hcs
    | some text =>
      have htext : ∀ ch ∈ text, p ch := hlines text List.mem_cons_self
      have hboth : ∀ ch ∈ buffer ++ text, p ch := List.forall_mem_append.mpr ⟨hbuffer, htext⟩
      -- What follows a logical line starts with an empty buffer.
      have hcons : ∀ first, (∀ ch ∈ first, p ch) →
          some cs ∈ some first :: joinLines [] .plain lines → ∀ ch ∈ cs, p ch := by
        intro first hfirst hmem
        rcases List.mem_cons.mp hmem with heq | hrest
        · exact Option.some.inj heq ▸ hfirst
        · exact ih (by simp) hlater hrest
      rw [joinLines] at hcs
      split at hcs
      · exact hcons [] (by simp) hcs
      · split at hcs
        · next kept hscan =>
          refine hcons (buffer ++ kept) ?_ hcs
          refine List.forall_mem_append.mpr ⟨hbuffer, fun ch hch => htext ch ?_⟩
          have hmem : ch ∈ (scan place [] text).1 := hscan ▸ hch
          exact (mem_of_scan ch hmem).resolve_left List.not_mem_nil
        · exact hcons _ (fun ch hch => hboth ch (mem_of_mem_dropLineEnd hch)) hcs
        · exact ih hboth hlater hcs

theorem not_mem_physicalLines {done : List (List UInt8)} {line bytes : List UInt8} {b : UInt8}
    (hdone : ∀ l ∈ done, b ∉ l) (hline : b ∉ line) (hbytes : b ∉ bytes) :
    ∀ l ∈ physicalLines done line bytes, b ∉ l := by
  induction bytes generalizing done line with
  | nil =>
    rw [physicalLines]
    intro l hl
    rw [List.mem_reverse] at hl
    split at hl
    · exact hdone l hl
    · rcases List.mem_cons.mp hl with rfl | hl
      · rwa [List.mem_reverse]
      · exact hdone l hl
  | cons first bytes ih =>
    obtain ⟨hfirst, hbytes⟩ := not_or.mp (mt List.mem_cons.mpr hbytes)
    have hlonger : b ∉ first :: line := mt List.mem_cons.mp (not_or.mpr ⟨hfirst, hline⟩)
    rw [physicalLines]
    split
    · exact ih (List.forall_mem_cons.mpr ⟨by rwa [List.mem_reverse], hdone⟩) (by simp) hbytes
    · exact ih hdone hlonger hbytes

theorem mem_of_dropByteOrderMark {bytes : List UInt8} {b : UInt8}
    (h : b ∈ dropByteOrderMark bytes) : b ∈ bytes := by
  unfold dropByteOrderMark at h
  split at h
  · exact List.mem_cons_of_mem _ (List.mem_cons_of_mem _ (List.mem_cons_of_mem _ h))
  · exact h

end Dotenv

/-! ### Files without a zero byte -/

/-- Text without a zero byte has no zero character. -/
theorem ne_zero_of_readText? {bytes : List UInt8} {s : String} (h : readText? bytes = some s)
    (hbytes : 0 ∉ bytes) : ∀ ch ∈ s.toList, ch ≠ '\x00' := by
  rintro _ hch rfl
  rw [eq_bytesOf_of_readText? h] at hbytes
  exact hbytes (List.mem_flatMap.mpr ⟨_, hch, by decide⟩)

theorem Environment.consists_ofBytes {vars : List (String × List UInt8)}
    (h : ∀ var ∈ vars, 0 ∉ var.2) : (ofBytes vars).Consists (· ≠ '\x00') := by
  intro name value hvalue
  obtain ⟨before, after, hvars, -⟩ := List.lookup_eq_some_iff.mp hvalue
  have hmem : (name, value) ∈ (ofBytes vars).vars := by rw [hvars]; simp
  obtain ⟨⟨other, bytes⟩, hvar, hread⟩ := List.mem_filterMap.mp hmem
  obtain ⟨text, htext, heq⟩ := Option.map_eq_some_iff.mp hread
  obtain ⟨-, rfl⟩ := Prod.mk.inj heq
  exact ne_zero_of_readText? htext (h _ hvar)

/-- A file without a zero byte sets no variable to a text with a zero character. -/
theorem Dotenv.not_sets_zero {vars : List (String × List UInt8)} {file : List UInt8}
    {name value : String} (hvars : ∀ var ∈ vars, 0 ∉ var.2) (hfile : 0 ∉ file)
    (h : Sets (.ofBytes vars) [] (logicalLines file) name value) : '\x00' ∉ value.toList := by
  intro hzero
  refine h.consists (p := (· ≠ '\x00')) (by decide) (Environment.consists_ofBytes hvars)
    (fun _ _ hnone => nomatch hnone) ?_ _ hzero rfl
  refine consists_joinLines (by simp) fun text htext => ?_
  obtain ⟨bytes, hbytes, hread⟩ := List.mem_map.mp htext
  obtain ⟨s, hs, rfl⟩ := Option.map_eq_some_iff.mp hread
  refine ne_zero_of_readText? hs (not_mem_physicalLines (by simp) (by simp) ?_ bytes hbytes)
  exact mt mem_of_dropByteOrderMark hfile

end CookieAuth.Config
