import CookieAuth.Text.Quoted
import CookieAuth.Text.Split
import CookieAuth.Text.Utf8

/-!
# The process environment

Named texts.  A variable that does not hold well-formed text counts as not set.  No variable can
hold a zero character, and the process does not survive an attempt to set one to a text with it.

## Main definitions

* `Environment`: the variables that are set, with `Environment.get?`;
* `Environment.ofBytes`: the environment of raw values;
* `Environment.Crash`: an attempt to set a variable to what it cannot hold;
* `Environment.setDefault`: set a variable that is not set yet;
* `Environment.reference?`: what a reference to a variable stands for.

## Main results

* `get?_of_setDefault`: setting a default changes at most that variable, and only if it was not set;
* `setDefault_eq_error_iff`: what the process does not survive.
-/

namespace CookieAuth.Config

/-- The variables that are set. -/
structure Environment where
  /-- Names and values; the first entry of a name counts. -/
  vars : List (String × String)
  deriving DecidableEq, Repr

namespace Environment

/-- The value of a variable. -/
def get? (env : Environment) (name : String) : Option String :=
  env.vars.lookup name

/-- The environment of raw values. -/
def ofBytes (vars : List (String × List UInt8)) : Environment :=
  ⟨vars.filterMap fun (name, bytes) => (Text.readText? bytes).map fun value => (name, value)⟩

/-- An attempt to set a variable to a value that it cannot hold.  The process ends with it. -/
structure Crash where
  /-- The variable. -/
  name : String
  /-- The value. -/
  value : String
  /-- The value has a zero character. -/
  zero : '\x00' ∈ value.toList
  deriving DecidableEq, Repr

/-- The wording of a crash. -/
def Crash.message (crash : Crash) : String :=
  "failed to set environment variable `" ++ Text.quoteBoth crash.name ++ "` to `"
    ++ Text.quoteBoth crash.value ++ "`: file name contained an unexpected NUL byte"

/-- Set a variable unless it is set already. -/
def setDefault (env : Environment) (name value : String) : Except Crash Environment :=
  -- the value is not looked at if it is not needed
  if (env.get? name).isSome then .ok env
  else if zero : '\x00' ∈ value.toList then .error { name, value, zero }
  else .ok ⟨(name, value) :: env.vars⟩

/-- The rest of a list after another list and an equality sign. -/
def afterBeginning? (start cs : List Char) : Option (List Char) :=
  if (start ++ ['=']).isPrefixOf cs then some (cs.drop (start.length + 1)) else none

/-- What a reference to a name stands for.  A variable is an entry made of its name, an equality
sign and its value, and a reference stands for what follows the name and an equality sign in an
entry.  So a name with an equality sign in it reaches into the value: with the entry `A=b=c` the
name `A` stands for `b=c` and the name `A=b` for `c`. -/
def reference? (env : Environment) (name : String) : Option String :=
  match Text.splitFirst? '=' name.toList with
  | none => env.get? name
  | some (first, start) =>
    (env.get? (String.ofList first)).bind fun value =>
      (afterBeginning? start value.toList).map String.ofList

variable {env env' : Environment} {name value : String} {crash : Crash}

theorem get?_cons (vars : List (String × String)) (name value other : String) :
    get? ⟨(name, value) :: vars⟩ other
      = if other = name then some value else get? ⟨vars⟩ other := by
  by_cases hname : other = name
  · subst hname
    simp [get?]
  · have hne : (other == name) = false := by simpa using hname
    simp [get?, List.lookup_cons, hne, hname]

theorem get?_of_setDefault (h : env.setDefault name value = .ok env') (other : String) :
    env'.get? other =
      if other = name then some ((env.get? name).getD value) else env.get? other := by
  unfold setDefault at h
  split at h
  · next hset =>
    obtain rfl := Except.ok.inj h
    obtain ⟨held, hheld⟩ := Option.isSome_iff_exists.mp hset
    split
    · next heq => rw [heq, hheld, Option.getD_some]
    · rfl
  · next hunset =>
    split at h
    · exact nomatch h
    · obtain rfl := Except.ok.inj h
      rw [get?_cons, Option.not_isSome_iff_eq_none.mp hunset, Option.getD_none]

/-- Only a variable that is not set is set, and only to a text without a zero character. -/
theorem setDefault_eq_error_iff : env.setDefault name value = .error crash ↔
    env.get? name = none ∧ crash.name = name ∧ crash.value = value := by
  unfold setDefault
  constructor
  · intro h
    split at h
    · exact nomatch h
    · next hunset =>
      split at h
      · obtain rfl := Except.error.inj h
        exact ⟨Option.not_isSome_iff_eq_none.mp hunset, rfl, rfl⟩
      · exact nomatch h
  · rintro ⟨hunset, rfl, rfl⟩
    rw [hunset, dif_pos crash.zero]
    rfl

theorem exists_setDefault (env : Environment) (name : String) (h : '\x00' ∉ value.toList) :
    ∃ env', env.setDefault name value = .ok env' := by
  cases hset : env.setDefault name value with
  | ok env' => exact ⟨env', rfl⟩
  | error crash =>
    obtain ⟨-, -, rfl⟩ := setDefault_eq_error_iff.mp hset
    exact absurd crash.zero h

end Environment

end CookieAuth.Config
