import CookieAuth.Proofs.Config.Settings

/-!
# Files that assign all variables

A file with one quoted assignment for each variable, in any order and with blank lines and comments
anywhere, is as good as the variables themselves.  Two readers go over a quoted text, one to join
its physical lines and one to take its value, and both find its end at the closing quote.

## Main definitions

* `Dotenv.FileLine`: an assignment, a blank line or a comment, with its characters in
  `FileLine.chars`;
* `Dotenv.fileOf`: the bytes of a file of such lines;
* `Dotenv.IsQuotable`: the texts that may stand between single quotes;
* `Dotenv.textLines`: the physical lines of a text;
* `Dotenv.Place.after?`: where in a logical line some characters lead.

## Main results

* `Dotenv.textLines_append_cons`: a physical line ends at its line feed;
* `Dotenv.joinLines_quoted`: a quoted text is joined up to its closing quote;
* `Dotenv.readLine_quoted`: a quoted assignment is read as what it assigns;
* `Dotenv.joinLines_chars`: a line of a file is one logical line, with the meaning that it should
  have;
* `Dotenv.loadLines_of_assigned`: loading a file sets the variables that it assigns;
* `file_is_read_as_environment`: a file that assigns all variables gives the same configuration as
  the environment would.
-/

namespace CookieAuth.Config

open Text

namespace Dotenv

/-! ### Physical lines -/

theorem physicalLines_eq_append (done : List (List UInt8)) (line bytes : List UInt8) :
    physicalLines done line bytes = done.reverse ++ physicalLines [] line bytes := by
  induction bytes generalizing done line with
  | nil => cases line <;> simp [physicalLines]
  | cons b rest ih =>
    unfold physicalLines
    split
    · rw [ih, ih [_]]
      simp
    · exact ih done _

theorem physicalLines_append_cons {line : List UInt8} (h : 0x0A ∉ line) (seen rest : List UInt8) :
    physicalLines [] seen (line ++ 0x0A :: rest)
      = (seen.reverse ++ line ++ [0x0A]) :: physicalLines [] [] rest := by
  induction line generalizing seen with
  | nil =>
    rw [List.nil_append, physicalLines, if_pos rfl, physicalLines_eq_append]
    simp
  | cons b line ih =>
    rw [List.mem_cons, not_or] at h
    rw [List.cons_append, physicalLines, if_neg (Ne.symm h.1), ih h.2]
    simp

/-- Only a line feed has the byte of a line feed in its code. -/
theorem eq_of_mem_utf8EncodeChar {ch : Char} (h : 0x0A ∈ String.utf8EncodeChar ch) : ch = '\n' := by
  have hn : ch.toNat = '\n'.toNat := (coded_utf8EncodeChar ch).eq_of_mem h (by decide)
  rw [← Char.ofNat_toNat ch, hn, Char.ofNat_toNat]

/-- A text has a byte order mark only where its first character is one. -/
theorem dropByteOrderMark_flatMap {cs : List Char} (h : ∀ ch ∈ cs.head?, ch.toNat < 0xF000) :
    dropByteOrderMark (cs.flatMap String.utf8EncodeChar) = cs.flatMap String.utf8EncodeChar := by
  unfold dropByteOrderMark
  split
  · next rest hmark =>
    cases cs with
    | nil => simp at hmark
    | cons ch cs =>
      have hcoded := coded_utf8EncodeChar ch
      have hhead : (String.utf8EncodeChar ch).head? = some 0xEF := by
        obtain ⟨b, code, hcode⟩ := List.exists_cons_of_ne_nil hcoded.ne_nil
        rw [List.flatMap_cons, hcode, List.cons_append] at hmark
        rw [hcode, List.head?_cons, (List.cons.inj hmark).1]
      exact absurd (hcoded.le_of_head hhead) (Nat.not_le.mpr (h ch rfl))
  · rfl

/-- The physical lines of a text. -/
def textLines (cs : List Char) : List (Option (List Char)) :=
  (physicalLines [] [] (cs.flatMap String.utf8EncodeChar)).map fun line =>
    (readText? line).map String.toList

theorem textLines_append_cons {line : List Char} (h : '\n' ∉ line) (rest : List Char) :
    textLines (line ++ '\n' :: rest) = some (line ++ ['\n']) :: textLines rest := by
  have hbytes : 0x0A ∉ line.flatMap String.utf8EncodeChar := by
    rw [List.mem_flatMap]
    rintro ⟨ch, hch, hmem⟩
    exact h (eq_of_mem_utf8EncodeChar hmem ▸ hch)
  have hfeed : String.utf8EncodeChar '\n' = [0x0A] := rfl
  have hread : readText? (line.flatMap String.utf8EncodeChar ++ [0x0A])
      = some (String.ofList (line ++ ['\n'])) := by
    rw [← readText?_bytesOf, bytesOf, String.toList_ofList, List.flatMap_append,
      List.flatMap_singleton, hfeed]
  unfold textLines
  rw [List.flatMap_append, List.flatMap_cons, hfeed, List.singleton_append,
    physicalLines_append_cons hbytes, List.map_cons, List.reverse_nil, List.nil_append, hread,
    Option.map_some, String.toList_ofList]

/-! ### Logical lines -/

/-- The place that some characters lead to. -/
def Place.after? (place : Place) (cs : List Char) : Option Place :=
  cs.foldlM Place.next place

theorem Place.after?_cons {place place' : Place} {ch : Char} (h : place.next ch = some place')
    (cs : List Char) : place.after? (ch :: cs) = place'.after? cs := by
  unfold after?
  rw [List.foldlM_cons, h]
  rfl

theorem Place.after?_append {place place' : Place} {cs : List Char}
    (h : place.after? cs = some place') (more : List Char) :
    place.after? (cs ++ more) = place'.after? more := by
  unfold after? at h ⊢
  rw [List.foldlM_append, h]
  rfl

theorem scan_of_after? {place place' : Place} {cs : List Char} (h : place.after? cs = some place')
    (seen : List Char) : scan place seen cs = (seen.reverse ++ cs, some place') := by
  induction cs generalizing place seen with
  | nil =>
    obtain rfl : place = place' := Option.some.inj h
    simp [scan]
  | cons ch cs ih =>
    unfold scan
    cases hnext : place.next ch with
    | none => simp [Place.after?, hnext] at h
    | some middle =>
      rw [Place.after?_cons hnext] at h
      dsimp only
      rw [ih h, List.reverse_cons, List.append_assoc, List.singleton_append]

theorem isComment_cons {ch : Char} (hblank : isBlank ch = false) (cs : List Char) :
    isComment (ch :: cs) = (ch == '#') := by
  simp [isComment, dropBlanks, hblank]

/-- A logical line ends where a line feed follows on plain text. -/
theorem joinLines_of_plain {buffer line : List Char} {place : Place}
    (hcomment : isComment (buffer ++ line) = false) (h : place.after? line = some .plain)
    (rest : List (Option (List Char))) :
    joinLines buffer place (some line :: rest)
      = some (dropLineEnd (buffer ++ line)) :: joinLines [] .plain rest := by
  rw [joinLines, hcomment, scan_of_after? h]
  rfl

/-- A logical line goes on where a quote is open. -/
theorem joinLines_of_strong {buffer line : List Char} {place : Place}
    (hcomment : isComment (buffer ++ line) = false) (h : place.after? line = some .strong)
    (rest : List (Option (List Char))) :
    joinLines buffer place (some line :: rest) = joinLines (buffer ++ line) .strong rest := by
  rw [joinLines, hcomment, scan_of_after? h]
  rfl

theorem dropLineEnd_append {cs : List Char} {ch : Char} (h : ch ≠ '\r') :
    dropLineEnd (cs ++ [ch, '\n']) = cs ++ [ch] := by
  unfold dropLineEnd
  simp [h]

/-- What may stand between single quotes.  A variable cannot hold a zero character. -/
def IsQuotable (cs : List Char) : Prop :=
  ∀ ch ∈ cs, ch ≠ '\'' ∧ ch ≠ '\\' ∧ ch ≠ '\x00'

/-- Characters between single quotes leave the quote open. -/
theorem after?_of_isQuotable {cs : List Char} (h : IsQuotable cs) :
    Place.strong.after? cs = some .strong := by
  induction cs with
  | nil => rfl
  | cons ch cs ih =>
    obtain ⟨hquote, hbackslash, -⟩ := h ch List.mem_cons_self
    have hnext : Place.strong.next ch = some .strong := by simp [Place.next, hquote, hbackslash]
    rw [Place.after?_cons hnext]
    exact ih fun ch hch => h ch (List.mem_cons_of_mem _ hch)

/-- A quoted text is joined from its physical lines up to the closing quote. -/
theorem joinLines_quoted {buffer start cs : List Char} {place : Place} (hstart : '\n' ∉ start)
    (hcomment : ∀ more, isComment (buffer ++ start ++ more) = false)
    (hplace : place.after? start = some .strong) (hcs : IsQuotable cs) (rest : List Char) :
    joinLines buffer place (textLines (start ++ cs ++ '\'' :: '\n' :: rest))
      = some (buffer ++ start ++ cs ++ ['\'']) :: joinLines [] .plain (textLines rest) := by
  -- The induction is on the length of the text, which is cut at its first line feed.
  induction hlength : cs.length using Nat.strongRecOn generalizing buffer start cs place with
  | _ length ih =>
    subst hlength
    by_cases hfeed : '\n' ∈ cs
    -- The first physical line leaves the quote open, and the buffer still starts as before.
    · obtain ⟨line, more, rfl, hline⟩ := List.eq_append_cons_of_mem hfeed
      have hquotable : IsQuotable (line ++ ['\n']) := fun ch hch => hcs ch (by
        rw [List.append_cons]
        exact List.mem_append_left _ hch)
      have hmore : IsQuotable more := fun ch hch => hcs ch (by simp [hch])
      have hshorter : more.length < (line ++ '\n' :: more).length := by
        rw [List.length_append, List.length_cons]
        omega
      have hopen : place.after? (start ++ line ++ ['\n']) = some .strong := by
        rw [List.append_assoc, Place.after?_append hplace, after?_of_isQuotable hquotable]
      have hcut : start ++ (line ++ '\n' :: more) ++ '\'' :: '\n' :: rest
          = (start ++ line) ++ '\n' :: ([] ++ more ++ '\'' :: '\n' :: rest) := by simp
      rw [hcut, textLines_append_cons (by simp [hstart, hline]),
        joinLines_of_strong (by simpa using hcomment (line ++ ['\n'])) hopen,
        ih more.length hshorter (by simp) (by simpa using fun m => hcomment (line ++ '\n' :: m))
          rfl hmore rfl]
      simp
    -- The closing quote stands in this physical line, right before its line feed.
    · have hclosed : place.after? (start ++ cs ++ ['\'', '\n']) = some .plain := by
        rw [List.append_assoc, Place.after?_append hplace,
          Place.after?_append (after?_of_isQuotable hcs)]
        rfl
      have hcut : start ++ cs ++ '\'' :: '\n' :: rest
          = (start ++ cs ++ ['\'']) ++ '\n' :: rest := by simp
      rw [hcut, textLines_append_cons (by simp [hstart, hfeed]),
        joinLines_of_plain (by simpa using hcomment (cs ++ ['\'', '\n'])) (by simpa using hclosed)]
      have hline : buffer ++ (start ++ cs ++ ['\''] ++ ['\n'])
          = (buffer ++ start ++ cs) ++ ['\'', '\n'] := by simp
      rw [hline, dropLineEnd_append (by decide)]

/-! ### Values and lines -/

theorem run_strong {lookup : String → String} {cs : List Char} (h : '\'' ∉ cs)
    (out rest : List Char) :
    ValueReader.run lookup { phase := .strong, out := out } (cs ++ '\'' :: rest)
      = ValueReader.run lookup { phase := .text, out := cs.reverse ++ out } rest := by
  induction cs generalizing out with
  | nil => rfl
  | cons ch cs ih =>
    rw [List.mem_cons, not_or] at h
    have hstep : ValueReader.step lookup { phase := .strong, out := out } ch
        = some { phase := .strong, out := ch :: out } := by
      simp [ValueReader.step, Ne.symm h.1]
    rw [List.cons_append, ValueReader.run, hstep]
    simp only [reduceCtorEq, decide_false, Bool.false_and, Bool.false_eq_true, if_false]
    rw [ih h.2, List.reverse_cons, List.append_assoc, List.singleton_append]

/-- Between single quotes every character stands for itself. -/
theorem readValue_quoted (lookup : String → String) {cs : List Char} (h : '\'' ∉ cs) :
    readValue lookup ('\'' :: cs ++ ['\'']) = some (String.ofList cs) := by
  have hopen : readValue lookup ('\'' :: cs ++ ['\''])
      = ValueReader.run lookup { phase := .strong } (cs ++ ['\'']) := rfl
  rw [hopen, run_strong h]
  simp [ValueReader.run, ValueReader.finish]

theorem readTarget?_name (v : Variable) (rest : List Char) :
    readTarget? (v.name.toList ++ '=' :: rest) = some (v.name.toList, rest) := by
  cases v <;> rfl

theorem name_eq_cons (v : Variable) :
    ∃ first more, v.name.toList = first :: more ∧ isBlank first = false ∧ first ≠ '#' := by
  cases v <;> exact ⟨_, _, rfl, by decide, by decide⟩

/-- A quoted assignment is read as what it assigns. -/
theorem readLine_quoted (lookup : String → String) (v : Variable) {cs : List Char} (h : '\'' ∉ cs) :
    readLine lookup (v.name.toList ++ '=' :: ('\'' :: cs ++ ['\'']))
      = .assign v.name (String.ofList cs) := by
  obtain ⟨first, more, hname, hblank, hsign⟩ := name_eq_cons v
  have htrim : trimList (v.name.toList ++ '=' :: ('\'' :: cs ++ ['\'']))
      = v.name.toList ++ '=' :: ('\'' :: cs ++ ['\'']) := by
    refine trimList_eq_self (fun ch hch => ?_) (fun ch hch => ?_)
    · rw [hname, List.cons_append, List.head?_cons, Option.mem_some_iff] at hch
      exact hch ▸ hblank
    · rw [← List.cons_append, ← List.append_assoc, List.getLast?_concat, Option.mem_some_iff] at hch
      exact hch ▸ rfl
  have hvoid : isVoid (v.name.toList ++ '=' :: ('\'' :: cs ++ ['\''])) = false := by
    simp [isVoid, hname, hsign]
  have hopen : dropBlanks ('\'' :: cs ++ ['\'']) = '\'' :: cs ++ ['\''] := rfl
  have hvalue : isVoid ('\'' :: cs ++ ['\'']) = false := rfl
  unfold readLine
  simp only [htrim, hvoid, readTarget?_name, hopen, hvalue, readValue_quoted lookup h,
    String.ofList_toList, Bool.false_eq_true, if_false]

/-! ### Lines of a file -/

/-- A line of a file that assigns variables, without its line feed. -/
inductive FileLine where
  /-- A variable with the text of its setting between single quotes. -/
  | assignment (v : Variable)
  /-- Nothing but blanks. -/
  | blank (cs : List Char) (hblank : ∀ ch ∈ cs, isBlank ch = true) (hline : '\n' ∉ cs)
  /-- A comment, with blanks before the number sign. -/
  | comment (blanks cs : List Char) (hblanks : ∀ ch ∈ blanks, isBlank ch = true)
    (hline : '\n' ∉ blanks ++ cs)

namespace FileLine

/-- The characters of a line, with its line feed. -/
def chars (c : Config) : FileLine → List Char
  | assignment v => v.name.toList ++ '=' :: '\'' :: (v.text c).toList ++ ['\'', '\n']
  | blank cs _ _ => cs ++ ['\n']
  | comment blanks cs _ _ => blanks ++ '#' :: cs ++ ['\n']

/-- The variable that a line assigns. -/
def target? : FileLine → Option Variable
  | assignment v => some v
  | _ => none

/-- What a line says. -/
def line (c : Config) : FileLine → Line
  | assignment v => .assign v.name (v.text c)
  | _ => .nothing

end FileLine

/-- A file of some lines. -/
def fileOf (c : Config) (lines : List FileLine) : List UInt8 :=
  bytesOf (String.ofList (lines.flatMap (FileLine.chars c)))

theorem next_of_isBlank {ch : Char} (h : isBlank ch = true) {place : Place}
    (hplace : place = .plain ∨ place = .blank) :
    place.next ch = some .plain ∨ place.next ch = some .blank := by
  have hne : ∀ other : Char, isBlank other = false → ch ≠ other := by
    rintro other hother rfl
    exact Bool.false_ne_true (hother.symm.trans h)
  have hopen : Place.open? ch = none := by
    simp [Place.open?, hne '\\' rfl, hne '"' rfl, hne '\'' rfl]
  rcases hplace with rfl | rfl
  · unfold Place.next
    dsimp only
    split
    · exact .inr rfl
    · exact .inl (by rw [hopen]; rfl)
  · left
    unfold Place.next
    dsimp only
    rw [if_neg (hne '#' rfl), hopen]
    rfl

/-- Blanks lead to plain text or to the place after a blank, and a line feed then to plain text. -/
theorem after?_of_isBlank {cs : List Char} (h : ∀ ch ∈ cs, isBlank ch = true) {place : Place}
    (hplace : place = .plain ∨ place = .blank) :
    place.after? (cs ++ ['\n']) = some .plain := by
  induction cs generalizing place with
  | nil => rcases hplace with rfl | rfl <;> rfl
  | cons ch cs ih =>
    have hcs : ∀ ch ∈ cs, isBlank ch = true := fun ch hch => h ch (List.mem_cons_of_mem _ hch)
    rw [List.cons_append]
    rcases next_of_isBlank (h ch List.mem_cons_self) hplace with hnext | hnext
    · rw [Place.after?_cons hnext]
      exact ih hcs (.inl rfl)
    · rw [Place.after?_cons hnext]
      exact ih hcs (.inr rfl)

/-- A line of a file is a logical line that says what it should. -/
theorem joinLines_chars {c : Config} (hc : ∀ v : Variable, IsQuotable (v.text c).toList)
    (line : FileLine) (rest : List Char) :
    ∃ logical, joinLines [] .plain (textLines (line.chars c ++ rest))
        = some logical :: joinLines [] .plain (textLines rest) ∧
      ∀ lookup, readLine lookup logical = line.line c := by
  cases line with
  | assignment v =>
    -- The name and the opening quote stand in the first physical line of the assignment.
    obtain ⟨first, more, hname, hblank, hsign⟩ := name_eq_cons v
    have hstart : '\n' ∉ v.name.toList ++ ['=', '\''] := by cases v <;> decide
    have hplace : Place.plain.after? (v.name.toList ++ ['=', '\'']) = some .strong := by
      cases v <;> rfl
    have hcomment : ∀ more, isComment ([] ++ (v.name.toList ++ ['=', '\'']) ++ more) = false := by
      intro more
      rw [hname, List.nil_append, List.cons_append, List.cons_append, isComment_cons hblank]
      simpa using hsign
    have hjoin := joinLines_quoted hstart hcomment hplace (hc v) rest
    refine ⟨v.name.toList ++ '=' :: ('\'' :: (v.text c).toList ++ ['\'']), ?_, fun lookup => ?_⟩
    · simpa [FileLine.chars] using hjoin
    · have hquote : '\'' ∉ (v.text c).toList := fun hmem => (hc v _ hmem).1 rfl
      rw [readLine_quoted lookup v hquote, String.ofList_toList]
      rfl
  | blank cs hblank hline =>
    have hall : ∀ ch ∈ cs ++ ['\n'], isBlank ch = true := by
      intro ch hch
      rcases List.mem_append.mp hch with hmem | hmem
      · exact hblank ch hmem
      · exact List.mem_singleton.mp hmem ▸ rfl
    have hcomment : isComment ([] ++ (cs ++ ['\n'])) = false := by
      rw [isComment, List.nil_append, dropBlanks_eq_nil_iff.mpr (List.all_eq_true.mpr hall)]
      rfl
    refine ⟨dropLineEnd (cs ++ ['\n']), ?_, fun lookup => ?_⟩
    · rw [FileLine.chars, List.append_assoc, List.singleton_append, textLines_append_cons hline,
        joinLines_of_plain hcomment (after?_of_isBlank hblank (.inl rfl))]
      rfl
    · rw [readLine, trimList_eq_nil fun ch hch => hall ch (mem_of_mem_dropLineEnd hch)]
      rfl
  | comment blanks cs hblanks hline =>
    -- A comment is found before the quotes in it are looked at.
    refine ⟨[], ?_, fun lookup => rfl⟩
    have hcut : (FileLine.comment blanks cs hblanks hline).chars c ++ rest
        = (blanks ++ '#' :: cs) ++ '\n' :: rest := by simp [FileLine.chars]
    have hcomment : isComment ([] ++ (blanks ++ '#' :: cs ++ ['\n'])) = true := by
      rw [isComment, List.nil_append, List.append_assoc, dropBlanks,
        List.dropWhile_append_of_pos hblanks]
      rfl
    rw [hcut, textLines_append_cons (by simpa using hline), joinLines, hcomment]
    rfl

theorem lt_of_isBlank {ch : Char} (h : isBlank ch = true) : ch.toNat < 0xF000 := by
  simp only [isBlank, Bool.or_eq_true, Bool.and_eq_true, decide_eq_true_eq, beq_iff_eq] at h
  omega

/-- A line does not start with a byte order mark. -/
theorem FileLine.lt_of_mem_head? {c : Config} {line : FileLine} {rest : List Char} {ch : Char}
    (h : ch ∈ (line.chars c ++ rest).head?) : ch.toNat < 0xF000 := by
  have hblanks : ∀ {blanks more : List Char} {first : Char}, (∀ ch ∈ blanks, isBlank ch = true) →
      first.toNat < 0xF000 → ch ∈ (blanks ++ first :: more).head? → ch.toNat < 0xF000 := by
    intro blanks more first hall hfirst hch
    cases blanks with
    | nil => exact Option.some.inj hch ▸ hfirst
    | cons blank blanks => exact Option.some.inj hch ▸ lt_of_isBlank (hall _ List.mem_cons_self)
  cases line with
  | assignment v => cases v <;> exact Option.some.inj h ▸ by decide
  | blank cs hblank hline =>
    rw [FileLine.chars, List.append_assoc] at h
    exact hblanks hblank (by decide) h
  | comment blanks cs hall hline =>
    rw [FileLine.chars, List.append_assoc, List.append_assoc] at h
    exact hblanks hall (by decide) h

theorem logicalLines_fileOf (c : Config) (lines : List FileLine) :
    logicalLines (fileOf c lines)
      = joinLines [] .plain (textLines (lines.flatMap (FileLine.chars c))) := by
  have hmark : ∀ ch ∈ (lines.flatMap (FileLine.chars c)).head?, ch.toNat < 0xF000 := by
    cases lines with
    | nil => simp
    | cons line lines => exact fun ch hch => FileLine.lt_of_mem_head? hch
  rw [logicalLines, fileOf, bytesOf, String.toList_ofList, dropByteOrderMark_flatMap hmark]
  rfl

/-! ### Loading a file -/

/-- Whatever is set is set to the text of its setting. -/
def AgreesWith (env : Environment) (c : Config) : Prop :=
  ∀ v : Variable, ∀ value ∈ env.get? v.name, value = v.text c

theorem AgreesWith.get?_of_setDefault {env env' : Environment} {c : Config} (h : AgreesWith env c)
    {w : Variable} (hset : env.setDefault w.name (w.text c) = .ok env') (v : Variable) :
    env'.get? v.name = if v = w then some (w.text c) else env.get? v.name := by
  rw [Environment.get?_of_setDefault hset]
  by_cases hvw : v = w
  · rw [if_pos (Variable.name_inj.mpr hvw), if_pos hvw]
    cases hw : env.get? w.name with
    | none => rfl
    | some value => rw [h w value hw, Option.getD_some]
  · rw [if_neg (mt Variable.name_inj.mp hvw), if_neg hvw]

theorem AgreesWith.setDefault {env env' : Environment} {c : Config} (h : AgreesWith env c)
    {w : Variable} (hset : env.setDefault w.name (w.text c) = .ok env') : AgreesWith env' c := by
  intro v value hvalue
  rw [h.get?_of_setDefault hset] at hvalue
  split at hvalue
  · next heq => rw [heq, Option.some.inj hvalue]
  · exact h v value hvalue

/-- Loading a file sets the variables that it assigns and that were not set. -/
theorem loadLines_of_assigned {c : Config} (hc : ∀ v : Variable, IsQuotable (v.text c).toList)
    {env : Environment} (henv : AgreesWith env c) (assigned : List (String × String))
    (lines : List FileLine) :
    ∃ env', loadLines env assigned
        (joinLines [] .plain (textLines (lines.flatMap (FileLine.chars c)))) = .ok env' ∧
      ∀ v : Variable, v ∈ lines.filterMap FileLine.target? ∨ env.get? v.name = some (v.text c) →
        env'.get? v.name = some (v.text c) := by
  -- The induction is on the lines; what is set before each of them agrees with the settings.
  induction lines generalizing env assigned with
  | nil => exact ⟨env, rfl, fun v hv => hv.resolve_left List.not_mem_nil⟩
  | cons line lines ih =>
    obtain ⟨logical, hjoin, hread⟩ := joinLines_chars hc line (lines.flatMap (FileLine.chars c))
    rw [List.flatMap_cons, hjoin, loadLines, hread]
    cases line with
    | blank => exact ih henv assigned
    | comment => exact ih henv assigned
    | assignment w =>
      have hzero : '\x00' ∉ (w.text c).toList := fun hmem => (hc w _ hmem).2.2 rfl
      obtain ⟨env₁, hset⟩ := env.exists_setDefault w.name hzero
      obtain ⟨env', hload, hget⟩ := ih (henv.setDefault hset) ((w.name, w.text c) :: assigned)
      refine ⟨env', ?_, fun v hv => hget v ?_⟩
      · simp only [FileLine.line, hset]
        exact hload
      · rw [henv.get?_of_setDefault hset]
        by_cases hvw : v = w
        · right
          rw [if_pos hvw, hvw]
        · rw [if_neg hvw]
          have hcons : v ∈ w :: lines.filterMap FileLine.target? ∨
            env.get? v.name = some (v.text c) := hv
          exact hcons.imp_left fun hmem => (List.mem_cons.mp hmem).resolve_left hvw

/-- Integers and switches hold no character that a quote would not keep. -/
theorem isQuotable_text {c : Config}
    (h : ∀ v : Variable, v ∉ Variable.parsed → IsQuotable (v.text c).toList) (v : Variable) :
    IsQuotable (v.text c).toList := by
  by_cases hv : v ∈ Variable.parsed
  · have hletters : ∀ ch ∈ "-truefalse".toList, ch ≠ '\'' ∧ ch ≠ '\\' ∧ ch ≠ '\x00' :=
      forall_mem_of_all (by decide)
    intro ch hch
    rcases Variable.mem_text_of_parsed hv hch with hdigit | hletter
    · refine ⟨?_, ?_, ?_⟩ <;> rintro rfl <;> exact absurd hdigit (by decide)
    · exact hletters ch hletter
  · exact h v hv

end Dotenv

/-- **A file is as good as the environment.** If no variable is set, then a file that assigns every
variable once, in any order and with blank lines and comments anywhere, gives the same configuration
as the texts in the environment. -/
theorem file_is_read_as_environment (c : Config) (lines : List Dotenv.FileLine)
    (vars : List (String × List UInt8))
    (hc : ∀ v : Variable, v ∉ Variable.parsed → Dotenv.IsQuotable (v.text c).toList)
    (hlines : (lines.filterMap Dotenv.FileLine.target?).Perm Variable.all)
    (hvars : ∀ v : Variable, (Environment.ofBytes vars).get? v.name = none) :
    fromEnvironment (.ofBytes vars) (some (Dotenv.fileOf c lines)) = .ok c ∧
      fromEnvironment (.ofBytes vars) (some (Dotenv.fileOf c lines))
        = fromEnvironment (.ofBytes (Variable.entries (Variable.text c) ++ vars)) none := by
  have hmeans : ∀ v : Variable, v.Means c (v.text c) := Variable.means_text c
  have hagrees : Dotenv.AgreesWith (.ofBytes vars) c := fun v value hvalue => by
    rw [hvars v] at hvalue
    exact nomatch hvalue
  obtain ⟨env, hload, hget⟩ :=
    Dotenv.loadLines_of_assigned (Dotenv.isQuotable_text hc) hagrees [] lines
  have hloaded : env.IsSet (Variable.text c) := by
    intro v
    have hmem : v ∈ Variable.all := by cases v <;> decide
    exact hget v (.inl (hlines.mem_iff.mpr hmem))
  have hset : (Environment.ofBytes (Variable.entries (Variable.text c) ++ vars)).IsSet
      (Variable.text c) := fun v =>
    Environment.get?_ofBytes (Variable.lookup_entries (Variable.text c) vars v)
  have hfile : fromEnvironment (.ofBytes vars) (some (Dotenv.fileOf c lines)) = .ok c := by
    rw [← Dotenv.logicalLines_fileOf, ← Dotenv.load] at hload
    rw [fromEnvironment, Option.elim_some, hload]
    dsimp only
    rw [read_of_means hloaded hmeans]
    rfl
  have hdirect : fromEnvironment (.ofBytes (Variable.entries (Variable.text c) ++ vars)) none
      = .ok c := by
    rw [fromEnvironment, Option.elim_none]
    dsimp only
    rw [read_of_means hset hmeans]
    rfl
  exact ⟨hfile, hfile.trans hdirect.symm⟩

namespace Sample

/-- Settings with texts that mean something else outside quotes. -/
def quoted : Config where
  host := "first\n# second\n\nPORT=80\n"
  port := 65535
  databaseUrl := ""
  staticDir := " \t"
  sessionExpiryHours := -9223372036854775808
  siteName := "\"$HOST\" # $\x7bPORT\x7d"
  siteDomain := "\u3000\r"

/-- The variables in reverse order, each with a comment and blank lines around it. -/
def quotedLines : List Dotenv.FileLine :=
  Variable.all.reverse.flatMap fun v =>
    [.blank [] (forall_mem_of_all (by decide)) (by decide),
      .comment ['\t'] "# don't \"\\".toList (forall_mem_of_all (by decide)) (by decide),
      .assignment v,
      .blank [' ', '\r'] (forall_mem_of_all (by decide)) (by decide)]

end Sample

theorem quoted_file_is_read_as_environment :
    fromEnvironment (.ofBytes [("port", bytesOf "80"), ("HOSTNAME", bytesOf "other")])
        (some (Dotenv.fileOf Sample.quoted Sample.quotedLines)) = .ok Sample.quoted := by
  have hc : ∀ v : Variable, v ∉ Variable.parsed →
      Dotenv.IsQuotable (v.text Sample.quoted).toList := by
    intro v hv
    cases v with
    | port | sessionExpiryHours | useHttps | passwordResetTimeoutMinutes | csrfProtection =>
      exact absurd (by decide) hv
    | host | databaseUrl | staticDir | siteName | siteDomain | defaultFromEmail =>
      exact forall_mem_of_all (by decide)
  have hvars : ∀ v : Variable, (Environment.ofBytes
      [("port", bytesOf "80"), ("HOSTNAME", bytesOf "other")]).get? v.name = none := by
    intro v
    cases v <;> decide +kernel
  exact (file_is_read_as_environment _ _ _ hc (by decide) hvars).1

end CookieAuth.Config
