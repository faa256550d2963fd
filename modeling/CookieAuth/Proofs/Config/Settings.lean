import CookieAuth.Proofs.Config.Loading
import CookieAuth.Proofs.Text.Integers

/-!
# Settings and their variables

Every setting has a variable of its own.  What is written in it is the text of the setting, and what
a text stands for is given by the grammar of integers and by the two words of a switch.  Reading
gives back what was written, and an environment file has no influence on variables that are set,
unless the process ends while it loads the file.

## Main definitions

* `Variable`: the variables, with their names, their texts and those of them that are parsed;
* `Variable.Holds`: what is written in a variable, with blanks around it where these are trimmed;
* `Variable.Means`: the texts that stand for the value of a setting;
* `Environment.IsSet`: all variables are set, each to its text.

## Main results

* `read_of_means`, `read_of_not_means`: what is read from variables that are all set;
* `Variable.means_of_holds`: what is written in a variable stands for the value of its setting;
* `fromEnvironment_eq_crash_iff`: when the process ends;
* `settings_are_read_back`: if it does not, then a configuration in the environment is read back
  whatever an environment file holds, and the first variable that cannot be parsed is reported.
-/

namespace CookieAuth.Config

open Text

/-! ### Variables and their texts -/

/-- The variables, each for a setting of its own. -/
inductive Variable where
  | host
  | port
  | databaseUrl
  | staticDir
  | sessionExpiryHours
  | siteName
  | siteDomain
  | useHttps
  | defaultFromEmail
  | passwordResetTimeoutMinutes
  | csrfProtection
  deriving DecidableEq, Repr

namespace Variable

/-- All variables. -/
def all : List Variable :=
  [host, port, databaseUrl, staticDir, sessionExpiryHours, siteName, siteDomain, useHttps,
    defaultFromEmail, passwordResetTimeoutMinutes, csrfProtection]

/-- The variables that are parsed, in this order.  The others are taken as they are. -/
def parsed : List Variable :=
  [port, sessionExpiryHours, useHttps, passwordResetTimeoutMinutes, csrfProtection]

theorem mem_parsed_iff {v : Variable} : v ∈ parsed ↔ v = port ∨ v = sessionExpiryHours ∨
    v = useHttps ∨ v = passwordResetTimeoutMinutes ∨ v = csrfProtection := by
  simp [parsed]

/-- The name of a variable. -/
def name : Variable → String
  | host => "HOST"
  | port => "PORT"
  | databaseUrl => "DATABASE_URL"
  | staticDir => "STATIC_DIR"
  | sessionExpiryHours => "SESSION_EXPIRY_HOURS"
  | siteName => "SITE_NAME"
  | siteDomain => "SITE_DOMAIN"
  | useHttps => "USE_HTTPS"
  | defaultFromEmail => "DEFAULT_FROM_EMAIL"
  | passwordResetTimeoutMinutes => "PASSWORD_RESET_TIMEOUT_MINUTES"
  | csrfProtection => "CSRF_PROTECTION"

theorem find?_name (v : Variable) : Variable.all.find? (·.name == v.name) = some v := by
  cases v <;> rfl

theorem name_inj {v w : Variable} : v.name = w.name ↔ v = w := by
  refine ⟨fun h => ?_, congrArg _⟩
  have hfind := find?_name v
  rw [h, find?_name w] at hfind
  exact (Option.some.inj hfind).symm

/-- The text of the setting that a variable is for. -/
def text (c : Config) : Variable → String
  | host => c.host
  | port => toString c.port.toNat
  | databaseUrl => c.databaseUrl
  | staticDir => c.staticDir
  | sessionExpiryHours => toString c.sessionExpiryHours.toInt
  | siteName => c.siteName
  | siteDomain => c.siteDomain
  | useHttps => toString c.useHttps
  | defaultFromEmail => c.defaultFromEmail
  | passwordResetTimeoutMinutes => toString c.passwordResetTimeoutMinutes.toInt
  | csrfProtection => toString c.csrfProtection

/-- A text with blanks around it. -/
def IsPadded (text raw : String) : Prop :=
  ∃ before after : List Char, (∀ ch ∈ before, isBlank ch = true) ∧
    (∀ ch ∈ after, isBlank ch = true) ∧ raw.toList = before ++ text.toList ++ after

/-- A text stands for a port. -/
def IsPort (raw : String) (p : UInt16) : Prop :=
  Integer.Denotes Integer.word16 (trimList raw.toList) p.toNat

/-- A text stands for a number of hours or minutes. -/
def IsCount (raw : String) (n : Int64) : Prop :=
  Integer.Denotes Integer.signed64 (trimList raw.toList) n.toInt

/-- A text stands for a switch. -/
def IsSwitch (raw : String) (b : Bool) : Prop :=
  trimList raw.toList = (toString b).toList

/-- What is written in a variable: the text of its setting, with blanks around it if the variable is
parsed. -/
def Holds (c : Config) (v : Variable) (raw : String) : Prop :=
  if v ∈ parsed then IsPadded (v.text c) raw else raw = v.text c

/-- A text stands for the value of a setting.  An integer or a switch may have blanks around it, and
an integer any of its spellings. -/
def Means (c : Config) (v : Variable) (raw : String) : Prop :=
  match v with
  | port => IsPort raw c.port
  | sessionExpiryHours => IsCount raw c.sessionExpiryHours
  | useHttps => IsSwitch raw c.useHttps
  | passwordResetTimeoutMinutes => IsCount raw c.passwordResetTimeoutMinutes
  | csrfProtection => IsSwitch raw c.csrfProtection
  | other => raw = other.text c

end Variable

/-! ### Reading one variable -/

open Variable (IsPort IsCount IsSwitch)

theorem toList_trim (raw : String) : (trim raw).toList = trimList raw.toList :=
  String.toList_ofList

theorem readPort_trim_iff (raw : String) (p : UInt16) :
    readPort (trim raw) = .ok p ↔ IsPort raw p := by
  have hhi : 0 ≤ Integer.word16.hi := by decide
  rw [IsPort, ← toList_trim, ← Integer.read_eq_ok_iff hhi]
  unfold readPort
  cases h : Integer.read Integer.word16 (trim raw) with
  | error e => simp
  | ok n =>
    have hbounds : 0 ≤ n ∧ n ≤ 65535 :=
      ((Integer.read_eq_ok_iff hhi).mp h).bounds (by decide) hhi
    rw [Except.ok.injEq, Except.ok.injEq, ← UInt16.toNat_inj, UInt16.toNat_ofNat']
    omega

theorem readCount_trim_iff (raw : String) (n : Int64) :
    readCount (trim raw) = .ok n ↔ IsCount raw n := by
  have hhi : 0 ≤ Integer.signed64.hi := by decide
  rw [IsCount, ← toList_trim, ← Integer.read_eq_ok_iff hhi]
  unfold readCount
  cases h : Integer.read Integer.signed64 (trim raw) with
  | error e => simp
  | ok m =>
    have hbounds : -9223372036854775808 ≤ m ∧ m ≤ 9223372036854775807 :=
      ((Integer.read_eq_ok_iff hhi).mp h).bounds (by decide) hhi
    rw [Except.ok.injEq, Except.ok.injEq, ← Int64.toInt_inj,
      Int64.toInt_ofInt_of_le hbounds.1 (by omega)]

theorem readSwitch_trim_iff (raw : String) (b : Bool) :
    readSwitch (trim raw) = .ok b ↔ IsSwitch raw b := by
  have htrue : toString true = "true" := rfl
  have hfalse : toString false = "false" := rfl
  rw [IsSwitch, ← toList_trim, String.toList_inj]
  unfold readSwitch
  split
  · next h => cases b <;> simp [h, htrue, hfalse]
  · next h =>
    split
    · next h' => cases b <;> simp [h', htrue, hfalse]
    · next h' => cases b <;> simp [h, h', htrue, hfalse]

/-- The error of a result, if it is one. -/
def errorOf {α : Type} : Except ConfigError α → Option ConfigError
  | .ok _ => none
  | .error e => some e

section ReadVar

variable {α : Type} {env : Environment} {name raw : String} {read : String → Except Cause α}

/-- A variable is read as the value that its text stands for. -/
theorem readVar_eq_ok (h : env.get? name = some raw) {a : α} (hread : read (trim raw) = .ok a)
    (default : α) : readVar env name read default = .ok a := by
  unfold readVar
  rw [h]
  simp only [hread]

/-- Reading a variable fails if its text stands for nothing, with its name and its text in the
error. -/
theorem errorOf_readVar {P : α → Prop} (h : env.get? name = some raw)
    (hread : ∀ a, read (trim raw) = .ok a ↔ P a) (default : α) :
    (∀ a, P a → errorOf (readVar env name read default) = none) ∧
      ((∀ a, ¬ P a) →
        ∃ cause, errorOf (readVar env name read default) = some ⟨name, raw, cause⟩) := by
  refine ⟨fun a ha => ?_, fun hnone => ?_⟩
  · rw [readVar_eq_ok h ((hread a).mpr ha)]
    rfl
  · -- The reader gives no value, since that would be one that the text stands for.
    unfold readVar
    rw [h]
    dsimp only
    cases hresult : read (trim raw) with
    | ok a => exact absurd ((hread a).mp hresult) (hnone a)
    | error cause => exact ⟨cause, rfl⟩

end ReadVar

/-! ### Reading all variables -/

namespace Variable

/-- The error in reading a variable, if there is one. -/
def error? (env : Environment) (v : Variable) : Option ConfigError :=
  let defaults : Config := {}
  match v with
  | port => errorOf (readVar env "PORT" readPort defaults.port)
  | sessionExpiryHours =>
    errorOf (readVar env "SESSION_EXPIRY_HOURS" readCount defaults.sessionExpiryHours)
  | useHttps => errorOf (readVar env "USE_HTTPS" readSwitch defaults.useHttps)
  | passwordResetTimeoutMinutes =>
    errorOf (readVar env "PASSWORD_RESET_TIMEOUT_MINUTES" readCount
      defaults.passwordResetTimeoutMinutes)
  | csrfProtection => errorOf (readVar env "CSRF_PROTECTION" readSwitch defaults.csrfProtection)
  | _ => none

end Variable

/-- Reading fails with the first error, in the order in which the variables are parsed. -/
theorem read_eq_error {env : Environment} {e : ConfigError}
    (h : Variable.parsed.findSome? (Variable.error? env) = some e) : read env = .error e := by
  unfold read
  simp only [Variable.parsed, Variable.error?, List.findSome?_cons, List.findSome?_nil] at h
  dsimp only
  generalize readVar env "PORT" readPort _ = port at h ⊢
  generalize readVar env "SESSION_EXPIRY_HOURS" readCount _ = hours at h ⊢
  generalize readVar env "USE_HTTPS" readSwitch _ = https at h ⊢
  generalize readVar env "PASSWORD_RESET_TIMEOUT_MINUTES" readCount _ = minutes at h ⊢
  generalize readVar env "CSRF_PROTECTION" readSwitch _ = csrf at h ⊢
  -- Each reading stops at its error or goes on to the next.
  cases port with
  | error e' => exact congrArg Except.error (Option.some.inj h)
  | ok =>
    cases hours with
    | error e' => exact congrArg Except.error (Option.some.inj h)
    | ok =>
      cases https with
      | error e' => exact congrArg Except.error (Option.some.inj h)
      | ok =>
        cases minutes with
        | error e' => exact congrArg Except.error (Option.some.inj h)
        | ok =>
          cases csrf with
          | error e' => exact congrArg Except.error (Option.some.inj h)
          | ok => simp [errorOf] at h

/-- A variable is read without error if its text has a value.  Otherwise the error has its name and
its text. -/
theorem Variable.error?_of_set {env : Environment} {v : Variable} {raw : String} (hv : v ∈ parsed)
    (h : env.get? v.name = some raw) :
    (∀ c, v.Means c raw → v.error? env = none) ∧
      ((∀ c, ¬ v.Means c raw) → ∃ cause, v.error? env = some ⟨v.name, raw, cause⟩) := by
  -- Any value is that of some configuration.
  rcases mem_parsed_iff.mp hv with rfl | rfl | rfl | rfl | rfl
  · obtain ⟨hok, herror⟩ := errorOf_readVar h (readPort_trim_iff raw) ({} : Config).port
    exact ⟨fun c => hok c.port, fun hnone => herror fun p => hnone { port := p }⟩
  · obtain ⟨hok, herror⟩ := errorOf_readVar h (readCount_trim_iff raw)
      ({} : Config).sessionExpiryHours
    exact ⟨fun c => hok c.sessionExpiryHours,
      fun hnone => herror fun n => hnone { sessionExpiryHours := n }⟩
  · obtain ⟨hok, herror⟩ := errorOf_readVar h (readSwitch_trim_iff raw) ({} : Config).useHttps
    exact ⟨fun c => hok c.useHttps, fun hnone => herror fun b => hnone { useHttps := b }⟩
  · obtain ⟨hok, herror⟩ := errorOf_readVar h (readCount_trim_iff raw)
      ({} : Config).passwordResetTimeoutMinutes
    exact ⟨fun c => hok c.passwordResetTimeoutMinutes,
      fun hnone => herror fun n => hnone { passwordResetTimeoutMinutes := n }⟩
  · obtain ⟨hok, herror⟩ := errorOf_readVar h (readSwitch_trim_iff raw) ({} : Config).csrfProtection
    exact ⟨fun c => hok c.csrfProtection,
      fun hnone => herror fun b => hnone { csrfProtection := b }⟩

/-- All variables are set. -/
def Environment.IsSet (env : Environment) (raws : Variable → String) : Prop :=
  ∀ v : Variable, env.get? v.name = some (raws v)

variable {env : Environment} {raws : Variable → String}

/-- If all texts stand for the values of a configuration, then it is read. -/
theorem read_of_means (h : env.IsSet raws) {c : Config}
    (hmeans : ∀ v : Variable, v.Means c (raws v)) : read env = .ok c := by
  have hport : ∀ d, readVar env "PORT" readPort d = .ok c.port :=
    readVar_eq_ok (h .port) ((readPort_trim_iff _ _).mpr (hmeans .port))
  have hhours : ∀ d, readVar env "SESSION_EXPIRY_HOURS" readCount d = .ok c.sessionExpiryHours :=
    readVar_eq_ok (h .sessionExpiryHours)
      ((readCount_trim_iff _ _).mpr (hmeans .sessionExpiryHours))
  have hhttps : ∀ d, readVar env "USE_HTTPS" readSwitch d = .ok c.useHttps :=
    readVar_eq_ok (h .useHttps) ((readSwitch_trim_iff _ _).mpr (hmeans .useHttps))
  have hminutes : ∀ d, readVar env "PASSWORD_RESET_TIMEOUT_MINUTES" readCount d
      = .ok c.passwordResetTimeoutMinutes :=
    readVar_eq_ok (h .passwordResetTimeoutMinutes)
      ((readCount_trim_iff _ _).mpr (hmeans .passwordResetTimeoutMinutes))
  have hcsrf : ∀ d, readVar env "CSRF_PROTECTION" readSwitch d = .ok c.csrfProtection :=
    readVar_eq_ok (h .csrfProtection) ((readSwitch_trim_iff _ _).mpr (hmeans .csrfProtection))
  have htext : ∀ {v : Variable} {text : String}, raws v = text → env.get? v.name = some text :=
    fun hraw => (h _).trans (congrArg some hraw)
  have hhost : env.get? "HOST" = some c.host := htext (hmeans .host)
  have hdatabase : env.get? "DATABASE_URL" = some c.databaseUrl := htext (hmeans .databaseUrl)
  have hstatic : env.get? "STATIC_DIR" = some c.staticDir := htext (hmeans .staticDir)
  have hsite : env.get? "SITE_NAME" = some c.siteName := htext (hmeans .siteName)
  have hdomain : env.get? "SITE_DOMAIN" = some c.siteDomain := htext (hmeans .siteDomain)
  have hsender : env.get? "DEFAULT_FROM_EMAIL" = some c.defaultFromEmail :=
    htext (hmeans .defaultFromEmail)
  unfold read
  simp only [hport, hhours, hhttps, hminutes, hcsrf, hhost, hdatabase, hstatic, hsite, hdomain,
    hsender, Option.getD_some]
  rfl

/-- The first variable whose text stands for no value is reported. -/
theorem read_of_not_means (h : env.IsSet raws) {earlier later : List Variable} {v : Variable}
    (hparsed : Variable.parsed = earlier ++ v :: later)
    (hearlier : ∀ e ∈ earlier, ∃ c, e.Means c (raws e)) (hv : ∀ c, ¬ v.Means c (raws v)) :
    ∃ cause, read env = .error ⟨v.name, raws v, cause⟩ := by
  have hmem : v ∈ Variable.parsed := by rw [hparsed]; simp
  obtain ⟨cause, hcause⟩ := (Variable.error?_of_set hmem (h v)).2 hv
  refine ⟨cause, read_eq_error ?_⟩
  have hnone : earlier.findSome? (Variable.error? env) = none := by
    rw [List.findSome?_eq_none_iff]
    intro e he
    obtain ⟨c, hc⟩ := hearlier e he
    have hmem : e ∈ Variable.parsed := by rw [hparsed]; simp [he]
    exact (Variable.error?_of_set hmem (h e)).1 c hc
  rw [hparsed, List.findSome?_append, hnone, Option.none_or, List.findSome?_cons, hcause]

/-! ### What is written in a variable -/

namespace Variable

theorem letter_of_mem_toString {b : Bool} {ch : Char} (h : ch ∈ (toString b).toList) :
    ch ∈ "truefalse".toList := by
  cases b with
  | true => exact List.mem_append_left "false".toList h
  | false => exact List.mem_append_right "true".toList h

/-- Integers and switches are written with digits, a minus sign and a few letters. -/
theorem mem_text_of_parsed {c : Config} {v : Variable} (hv : v ∈ parsed) {ch : Char}
    (h : ch ∈ (v.text c).toList) : ch.isDigit = true ∨ ch ∈ "-truefalse".toList := by
  have hsign : ∀ {n : Int}, ch ∈ (toString n).toList →
      ch.isDigit = true ∨ ch ∈ "-truefalse".toList := by
    intro n hn
    rcases Integer.isDigit_of_mem_toString hn with hdigit | rfl
    · exact .inl hdigit
    · exact .inr (by decide)
  have hletter : ∀ {b : Bool}, ch ∈ (toString b).toList →
      ch.isDigit = true ∨ ch ∈ "-truefalse".toList := fun hb =>
    .inr (List.mem_cons_of_mem '-' (letter_of_mem_toString hb))
  rcases mem_parsed_iff.mp hv with rfl | rfl | rfl | rfl | rfl
  · exact hsign (n := c.port.toNat) h
  · exact hsign h
  · exact hletter h
  · exact hsign h
  · exact hletter h

theorem not_isBlank_of_isDigit {ch : Char} (h : ch.isDigit = true) : isBlank ch = false := by
  have hbounds : 48 ≤ ch.toNat ∧ ch.toNat ≤ 57 := by
    simpa [Char.isDigit, UInt32.le_iff_toNat_le] using h
  simp only [isBlank, Bool.or_eq_false_iff, Bool.and_eq_false_iff, decide_eq_false_iff_not,
    beq_eq_false_iff_ne]
  omega

theorem trimList_of_holds {c : Config} {v : Variable} {raw : String} (hv : v ∈ parsed)
    (h : v.Holds c raw) : trimList raw.toList = (v.text c).toList := by
  rw [Holds, if_pos hv] at h
  obtain ⟨before, after, hbefore, hafter, hraw⟩ := h
  have hplain : ∀ ch ∈ (v.text c).toList, isBlank ch = false := by
    intro ch hch
    rcases mem_text_of_parsed hv hch with hdigit | hletter
    · exact not_isBlank_of_isDigit hdigit
    · have hletters : ∀ ch ∈ "-truefalse".toList, isBlank ch = false :=
        forall_mem_of_all (by decide)
      exact hletters ch hletter
  rw [hraw]
  exact trimList_of_padded hbefore hafter (fun ch hch => hplain ch (List.mem_of_mem_head? hch))
    (fun ch hch => hplain ch (List.mem_of_mem_getLast? hch))

/-- What is written in a variable stands for the value of its setting. -/
theorem means_of_holds {c : Config} {v : Variable} {raw : String} (h : v.Holds c raw) :
    v.Means c raw := by
  have hport : ∀ p : UInt16,
      Integer.Denotes Integer.word16 (toString (p.toNat : Int)).toList p.toNat := by
    intro p
    have hlo : Integer.word16.lo ≤ (p.toNat : Int) := Int.natCast_nonneg _
    have hhi : (p.toNat : Int) ≤ Integer.word16.hi :=
      Int.ofNat_le.mpr (Nat.le_of_lt_succ p.toNat_lt)
    exact Integer.denotes_toString hlo hhi
  have hcount : ∀ n : Int64, Integer.Denotes Integer.signed64 (toString n.toInt).toList n.toInt :=
    fun n => Integer.denotes_toString (Int64.le_toInt n) (Int.le_of_lt_add_one (Int64.toInt_lt n))
  -- Trimming a parsed variable leaves exactly the text of its setting.
  by_cases hv : v ∈ parsed
  · have htrim := trimList_of_holds hv h
    rcases mem_parsed_iff.mp hv with rfl | rfl | rfl | rfl | rfl
    · show Integer.Denotes Integer.word16 (trimList raw.toList) c.port.toNat
      rw [htrim]
      exact hport c.port
    · show Integer.Denotes Integer.signed64 (trimList raw.toList) c.sessionExpiryHours.toInt
      rw [htrim]
      exact hcount c.sessionExpiryHours
    · exact htrim
    · show Integer.Denotes Integer.signed64 (trimList raw.toList)
        c.passwordResetTimeoutMinutes.toInt
      rw [htrim]
      exact hcount c.passwordResetTimeoutMinutes
    · exact htrim
  · rw [Holds, if_neg hv] at h
    cases v with
    | port | sessionExpiryHours | useHttps | passwordResetTimeoutMinutes | csrfProtection =>
      exact absurd (by decide) hv
    | host | databaseUrl | staticDir | siteName | siteDomain | defaultFromEmail => exact h

theorem means_text (c : Config) (v : Variable) : v.Means c (v.text c) := by
  refine means_of_holds ?_
  unfold Holds
  split
  · exact ⟨[], [], by simp, by simp, by simp⟩
  · rfl

end Variable

/-! ### The environment and the file -/

/-- All variables with the bytes of their texts. -/
def Variable.entries (raws : Variable → String) : List (String × List UInt8) :=
  Variable.all.map fun v => (v.name, bytesOf (raws v))

theorem Variable.lookup_entries (raws : Variable → String) (others : List (String × List UInt8))
    (v : Variable) : (entries raws ++ others).lookup v.name = some (bytesOf (raws v)) := by
  cases v <;> rfl

theorem Environment.get?_ofBytes_cons (other name : String) (bytes : List UInt8)
    (vars : List (String × List UInt8)) :
    (ofBytes ((other, bytes) :: vars)).get? name =
      if name = other then (readText? bytes).or ((ofBytes vars).get? name)
      else (ofBytes vars).get? name := by
  unfold ofBytes get?
  rw [List.filterMap_cons]
  cases hread : readText? bytes with
  | none => simp [hread]
  | some value =>
    by_cases hname : name = other
    · simp [hread, hname]
    · have hne : (name == other) = false := by simpa using hname
      simp [hread, hname, List.lookup_cons, hne]

/-- A variable whose first raw value is well-formed text is set. -/
theorem Environment.get?_ofBytes {vars : List (String × List UInt8)} {name raw : String}
    (h : vars.lookup name = some (bytesOf raw)) : (ofBytes vars).get? name = some raw := by
  induction vars with
  | nil => simp at h
  | cons var vars ih =>
    obtain ⟨other, bytes⟩ := var
    rw [get?_ofBytes_cons]
    by_cases hname : name = other
    · subst hname
      obtain rfl : bytes = bytesOf raw := by simpa using h
      rw [if_pos rfl, readText?_bytesOf, Option.some_or]
    · have hne : (name == other) = false := by simpa using hname
      rw [List.lookup_cons, hne] at h
      rw [if_neg hname]
      exact ih h

/-- Reading ends with a crash exactly if loading the file does. -/
theorem fromEnvironment_eq_crash_iff {env : Environment} {file : Option (List UInt8)}
    {crash : Environment.Crash} :
    fromEnvironment env file = .error (.crash crash) ↔ ∃ bytes ∈ file,
      Dotenv.Sets env [] (Dotenv.logicalLines bytes) crash.name crash.value := by
  have hread : ∀ env' : Environment,
      (read env').mapError ConfigFailure.unreadable ≠ .error (.crash crash) := by
    intro env' h
    cases hsettings : read env' <;> simp [hsettings, Except.mapError] at h
  cases file with
  | none => simpa [fromEnvironment] using hread env
  | some bytes =>
    simp only [Option.mem_def, Option.some.injEq, exists_eq_left', fromEnvironment,
      Option.elim_some]
    rw [← Dotenv.loadLines_eq_error_iff, ← Dotenv.load]
    cases Dotenv.load env bytes with
    | ok env' => simpa using hread env'
    | error cause => simp

/-- An environment file does not touch the variables that are set. -/
theorem fromEnvironment_of_isSet {env : Environment} {raws : Variable → String}
    (h : env.IsSet raws) {file : Option (List UInt8)}
    (hcrash : ∀ crash, fromEnvironment env file ≠ .error (.crash crash)) :
    ∃ env' : Environment, env'.IsSet raws ∧
      fromEnvironment env file = (read env').mapError .unreadable := by
  cases file with
  | none => exact ⟨env, h, rfl⟩
  | some bytes =>
    cases hload : Dotenv.load env bytes with
    | ok env' =>
      refine ⟨env', fun v => Dotenv.get?_loadLines hload (h v), ?_⟩
      simp [fromEnvironment, hload]
    | error crash => exact absurd (by simp [fromEnvironment, hload]) (hcrash crash)

/-- **The environment decides.** Let every variable be set.  The process ends exactly if an
environment file comes to set some further variable to a text with a zero character, which cannot be
if neither the file nor the environment has a zero byte.  Otherwise, if the variables hold what is
written for a configuration, then that configuration is read, whatever the file holds, and if some
parsed variables hold texts without a value, then the first of them is reported. -/
theorem settings_are_read_back (vars : List (String × List UInt8)) (file : Option (List UInt8))
    (raws : Variable → String)
    (hvars : ∀ v : Variable, vars.lookup v.name = some (bytesOf (raws v))) :
    (∀ crash, fromEnvironment (.ofBytes vars) file = .error (.crash crash) ↔ ∃ bytes ∈ file,
      Dotenv.Sets (.ofBytes vars) [] (Dotenv.logicalLines bytes) crash.name crash.value) ∧
    ((∀ var ∈ vars, 0 ∉ var.2) → (∀ bytes ∈ file, 0 ∉ bytes) →
      ∀ crash, fromEnvironment (.ofBytes vars) file ≠ .error (.crash crash)) ∧
    ((∀ crash, fromEnvironment (.ofBytes vars) file ≠ .error (.crash crash)) →
      (∀ c : Config, (∀ v : Variable, v.Holds c (raws v)) →
        fromEnvironment (.ofBytes vars) file = .ok c) ∧
      (∀ (earlier later : List Variable) (v : Variable),
        Variable.parsed = earlier ++ v :: later →
        (∀ e ∈ earlier, ∃ c : Config, e.Means c (raws e)) → (∀ c : Config, ¬ v.Means c (raws v)) →
        ∃ cause, fromEnvironment (.ofBytes vars) file
          = .error (.unreadable ⟨v.name, raws v, cause⟩))) := by
  refine ⟨fun crash => fromEnvironment_eq_crash_iff, ?_, ?_⟩
  · intro hzero hfile crash hcrash
    obtain ⟨bytes, hbytes, hsets⟩ := fromEnvironment_eq_crash_iff.mp hcrash
    exact Dotenv.not_sets_zero hzero (hfile bytes hbytes) hsets crash.zero
  · intro hcrash
    have hset : (Environment.ofBytes vars).IsSet raws := fun v =>
      Environment.get?_ofBytes (hvars v)
    obtain ⟨env, henv, hread⟩ := fromEnvironment_of_isSet hset hcrash
    rw [hread]
    constructor
    · intro c hc
      rw [read_of_means henv fun v => Variable.means_of_holds (hc v)]
      rfl
    · intro earlier later v hparsed hearlier hv
      obtain ⟨cause, herror⟩ := read_of_not_means henv hparsed hearlier hv
      exact ⟨cause, by rw [herror]; rfl⟩

namespace Sample

/-- Settings at the limits, with texts that trimming or a file would change. -/
def extreme : Config where
  host := " 'localhost' "
  port := 65535
  databaseUrl := ""
  sessionExpiryHours := -9223372036854775808
  siteName := "\tsite\n"
  useHttps := true
  passwordResetTimeoutMinutes := 9223372036854775807
  csrfProtection := false

/-- The same settings in writing, with blanks around what is parsed. -/
def padded : Variable → String
  | .port => " 65535\n"
  | .sessionExpiryHours => "\t-9223372036854775808"
  | .useHttps => "true\r\n"
  | .passwordResetTimeoutMinutes => "9223372036854775807  "
  | other => other.text extreme

/-- Two texts without a value, the first of them one too large. -/
def unreadable : Variable → String
  | .sessionExpiryHours => "9223372036854775808"
  | .useHttps => "yes"
  | other => padded other

/-- A file that assigns some variables and cannot be read to its end. -/
def contrary : List UInt8 :=
  bytesOf "PORT=80\nHOST=other\nUSE_HTTPS='false'\n=\nSITE_NAME=\"\n"

theorem holds_padded (v : Variable) : v.Holds extreme (padded v) := by
  have hpadded : ∀ {text raw : String} (before after : List Char),
      (before ++ after).all isBlank = true → raw.toList = before ++ text.toList ++ after →
      Variable.IsPadded text raw := by
    intro text raw before after hblank hraw
    rw [List.all_eq_true] at hblank
    exact ⟨before, after, fun ch h => hblank ch (List.mem_append_left _ h),
      fun ch h => hblank ch (List.mem_append_right _ h), hraw⟩
  cases v with
  | port => exact hpadded [' '] ['\n'] (by decide) (by decide)
  | sessionExpiryHours => exact hpadded ['\t'] [] (by decide) (by decide)
  | useHttps => exact hpadded [] ['\r', '\n'] (by decide) (by decide)
  | passwordResetTimeoutMinutes => exact hpadded [] [' ', ' '] (by decide) (by decide)
  | csrfProtection => exact hpadded [] [] (by decide) (by decide)
  | host | databaseUrl | staticDir | siteName | siteDomain | defaultFromEmail => rfl

theorem not_means_unreadable (c : Config) :
    ¬ Variable.sessionExpiryHours.Means c (unreadable .sessionExpiryHours) := by
  intro h
  have hread := (readCount_trim_iff "9223372036854775808" _).mpr h
  have herror : readCount (trim "9223372036854775808") = .error (.integer .tooLarge) := rfl
  rw [herror] at hread
  exact nomatch hread

end Sample

theorem extreme_settings_are_read_back :
    fromEnvironment (.ofBytes (Variable.entries Sample.padded)) (some Sample.contrary)
        = .ok Sample.extreme ∧
      ∃ cause, fromEnvironment (.ofBytes (Variable.entries Sample.unreadable))
          (some Sample.contrary)
        = .error (.unreadable ⟨"SESSION_EXPIRY_HOURS", "9223372036854775808", cause⟩) := by
  have hvars : ∀ (raws : Variable → String) (v : Variable),
      (Variable.entries raws).lookup v.name = some (bytesOf (raws v)) := fun raws v => by
    simpa using Variable.lookup_entries raws [] v
  have hfile : ∀ bytes ∈ some Sample.contrary, 0 ∉ bytes := by
    intro bytes hbytes
    obtain rfl := Option.some.inj hbytes
    decide +kernel
  obtain ⟨-, hpadded, hread⟩ := settings_are_read_back _ (some Sample.contrary) _
    (hvars Sample.padded)
  obtain ⟨-, hunreadable, hreport⟩ := settings_are_read_back _ (some Sample.contrary) _
    (hvars Sample.unreadable)
  refine ⟨(hread (hpadded (by decide +kernel) hfile)).1 _ Sample.holds_padded,
    (hreport (hunreadable (by decide +kernel) hfile)).2 [.port] _ .sessionExpiryHours rfl ?_
      Sample.not_means_unreadable⟩
  intro e he
  obtain rfl := List.mem_singleton.mp he
  exact ⟨Sample.extreme, Variable.means_of_holds (Sample.holds_padded .port)⟩

/-- Although every variable is set to what is written for a configuration, the process ends if the
file assigns a zero character to another variable. -/
theorem zero_in_file_ends_process :
    (∀ v : Variable, v.Holds Sample.extreme (Sample.padded v) ∧
      (Variable.entries Sample.padded).lookup v.name = some (bytesOf (Sample.padded v))) ∧
    fromEnvironment (.ofBytes (Variable.entries Sample.padded)) (some [0x58, 0x3D, 0x00, 0x0A])
      = .error (.crash ⟨"X", "\x00", by decide⟩) := by
  constructor
  · intro v
    exact ⟨Sample.holds_padded v, by simpa using Variable.lookup_entries Sample.padded [] v⟩
  · have hlines : Dotenv.logicalLines [0x58, 0x3D, 0x00, 0x0A] = [some ['X', '=', '\x00']] := by
      decide +kernel
    refine fromEnvironment_eq_crash_iff.mpr ⟨_, rfl, ?_⟩
    rw [hlines]
    exact .here (by decide +kernel) (by decide +kernel)

end CookieAuth.Config
