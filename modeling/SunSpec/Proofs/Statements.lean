import Mathlib.Data.List.Forall2
import SunSpec.Report

/-!
# Statements read back

Texts that a device sends and names that a description gives stand in literals of a report, so any
character may.  This file reads such a report by the rules of SQL and finds in it what was reported:
one statement for each reading, and in it the texts as they were.

The reader knows nothing of the writer.  `Sql.run` goes over a text character by character, in one
of the modes of `Sql.Mode`; a literal ends at a quote that no other follows, and behind two dashes
nothing is looked at up to the end of the line.  `Sql.split?` cuts what it finds at the semicolons,
and `Sql.insert?` takes a statement apart.  Characters that SQL admits elsewhere and that no
statement of this kind needs are refused.

Each part of a statement leaves the reader in a mode that only waits for the token to end
(`Sql.Spells`); that a text does so whatever is in it is `Sql.spells_literal`, by induction over its
characters.  `Sql.Reads` says what a text is read as by itself, and is closed under writing one text
behind another (`Sql.Reads.append`).  So a dataset is read statement by statement, and a whole
report dataset by dataset, its comments left aside.
-/

namespace SunSpec

namespace Sql

/-! ## The reader -/

/-- A part of a statement. -/
inductive Token where
  /-- A keyword, a name or a number. -/
  | word (s : String)
  /-- A literal, as the text that it stands for. -/
  | text (s : String)
  | mark (c : Char)
deriving DecidableEq, Repr

/-- What a reader is at, with the characters of the token so far. -/
inductive Mode where
  | between
  | word (read : List Char)
  /-- Inside a literal. -/
  | text (read : List Char)
  /-- Behind a quote that ends a literal, unless another one follows. -/
  | quote (read : List Char)
  /-- Behind the first dash of a comment. -/
  | dash
  | comment
deriving DecidableEq, Repr

/-- A character of keywords, names and numbers. -/
def isLetter (c : Char) : Bool := c.isAlphanum || c == '_'

/-- The token that a mode ends with where another one begins. -/
def Mode.token? : Mode → Option Token
  | .word read => some (.word (String.ofList read))
  | .quote read => some (.text (String.ofList read))
  | .between | .text _ | .dash | .comment => none

/-- A character between two tokens: those that it is, and the mode behind it. -/
def start (c : Char) : Option (List Token × Mode) :=
  if isLetter c then some ([], .word [c])
  else match c with
    | '\'' => some ([], .text [])
    | '-' => some ([], .dash)
    | ' ' | '\n' => some ([], .between)
    | '(' | ')' | ',' | ';' => some ([.mark c], .between)
    | _ => none

/-- A character that ends the token in front of it. -/
def Mode.close (m : Mode) (c : Char) : Option (List Token × Mode) :=
  (start c).map fun next => (m.token?.toList ++ next.1, next.2)

/-- One character: the tokens that it ends, and the mode behind it. -/
def step (m : Mode) (c : Char) : Option (List Token × Mode) :=
  match m with
  | .between => m.close c
  | .word read => if isLetter c then some ([], .word (read ++ [c])) else m.close c
  | .text read => some ([], if c = '\'' then .quote read else .text (read ++ [c]))
  | .quote read => if c = '\'' then some ([], .text (read ++ [c])) else m.close c
  | .dash => if c = '-' then some ([], .comment) else none
  | .comment => some ([], if c = '\n' then .between else .comment)

/-- All characters, one after the other. -/
def run : Mode → List Char → Option (List Token × Mode)
  | m, [] => some ([], m)
  | m, c :: cs => do
    let (ts, next) ← step m c
    let (rest, last) ← run next cs
    return (ts ++ rest, last)

/-- The tokens of a text that does not end inside a literal. -/
def tokens? (s : String) : Option (List Token) := do
  let (ts, last) ← run .between s.toList
  match last with
  | .text _ | .dash => none
  | _ => return ts ++ last.token?.toList

/-- Tokens cut at the semicolons, of which one ends each statement. -/
def split? : List Token → Option (List (List Token))
  | [] => some []
  | t :: ts =>
    if t = .mark ';' then (split? ts).map ([] :: ·)
    else match split? ts with
      | some (s :: ss) => some ((t :: s) :: ss)
      | _ => none

/-- A value in a row. -/
inductive Datum where
  | null
  | number (n : Nat)
  | text (s : String)
deriving DecidableEq, Repr

/-- The value of a token. -/
def datum? : Token → Option Datum
  | .text s => some (.text s)
  | .word s =>
    if s = "NULL" then some .null
    else if s.toList.all Char.isDigit then some (.number (Nat.ofDigitChars 10 s.toList 0))
    else none
  | .mark _ => none

/-- The name that a token is. -/
def name? : Token → Option String
  | .word s => some s
  | _ => none

/-- Items between commas, up to a closing bracket, and the tokens behind it. -/
def items? {α : Type} (item? : Token → Option α) : List Token → Option (List α × List Token)
  | t :: .mark ',' :: ts => do
    let a ← item? t
    let (as, rest) ← items? item? ts
    return (a :: as, rest)
  | t :: .mark ')' :: rest => do return ([← item? t], rest)
  | _ => none

/-- A row for the columns of a table. -/
structure Insert where
  table : String
  columns : List String
  values : List Datum
deriving DecidableEq, Repr

/-- The row that a statement inserts, as many values as columns. -/
def insert? : List Token → Option Insert
  | .word "INSERT" :: .word "INTO" :: .word table :: .mark '(' :: ts => do
    let (columns, .word "VALUES" :: .mark '(' :: ts) ← items? name? ts | none
    let (values, []) ← items? datum? ts | none
    if values.length = columns.length then some ⟨table, columns, values⟩ else none
  | _ => none

/-- The rows that a text inserts, one for each statement of the text. -/
def read? (s : String) : Option (List Insert) := do
  (← split? (← tokens? s)).mapM insert?

/-! ## Reading on -/

theorem run_cons {m m' m'' : Mode} {c : Char} {cs : List Char} {ts us : List Token}
    (hstep : step m c = some (ts, m')) (hrun : run m' cs = some (us, m'')) :
    run m (c :: cs) = some (ts ++ us, m'') := by
  simp [run, hstep, hrun]

/-- A text behind another one is read on from where that one ends. -/
theorem run_append {m m' m'' : Mode} {cs ds : List Char} {ts us : List Token}
    (hfirst : run m cs = some (ts, m')) (hnext : run m' ds = some (us, m'')) :
    run m (cs ++ ds) = some (ts ++ us, m'') := by
  induction cs generalizing m ts with
  | nil =>
    obtain ⟨rfl, rfl⟩ : ts = [] ∧ m = m' := by simpa [run, eq_comm] using hfirst
    exact hnext
  | cons c cs ih =>
    simp only [run, Option.bind_eq_bind, Option.bind_eq_some_iff, Prod.exists] at hfirst
    obtain ⟨us', next, hstep, vs, last, hrest, hlast⟩ := hfirst
    obtain ⟨rfl, rfl⟩ : us' ++ vs = ts ∧ last = m' := by simpa using hlast
    rw [List.cons_append, List.append_assoc]
    exact run_cons hstep (ih hrest)

/-- Between two tokens stand the characters that no mode takes into its token. -/
theorem step_of_token {m : Mode} {t : Token} (hm : m.token? = some t) {c : Char}
    {ts : List Token} (hstart : start c = some (ts, .between)) :
    step m c = some (t :: ts, .between) := by
  have hletter : isLetter c = false := by
    rw [← Bool.not_eq_true]
    intro h
    simp [start, h] at hstart
  have hquote : c ≠ '\'' := by
    rintro rfl
    simp [start, isLetter] at hstart
  have hclose : m.close c = some (t :: ts, .between) := by simp [Mode.close, hstart, hm]
  cases m with
  | word read => simpa [step, hletter] using hclose
  | quote read => simpa [step, hquote] using hclose
  | between | text | dash | comment => simp [Mode.token?] at hm

/-! ## Tokens -/

/-- A text that is read as one token, which ends only where the text does. -/
def Spells (s : String) (t : Token) : Prop :=
  ∃ m : Mode, run .between s.toList = some ([], m) ∧ m.token? = some t

theorem Spells.run_end {s : String} {t : Token} (h : Spells s t) {c : Char} {ts : List Token}
    (hstart : start c = some (ts, .between)) :
    run .between (s.toList ++ [c]) = some (t :: ts, .between) := by
  obtain ⟨m, hrun, hm⟩ := h
  have hend : run m [c] = some (t :: ts, .between) := by
    simp [run, step_of_token hm hstart]
  exact run_append hrun hend

theorem Spells.ne_mark {s : String} {t : Token} (h : Spells s t) (c : Char) : t ≠ .mark c := by
  obtain ⟨m, -, hm⟩ := h
  rintro rfl
  cases m <;> simp [Mode.token?] at hm

/-- Nothing in a literal ends it: each of its characters is read as itself. -/
theorem run_text (read cs : List Char) :
    run (.text read) (cs.flatMap fun c => if c == '\'' then ['\'', '\''] else [c]) =
      some ([], .text (read ++ cs)) := by
  induction cs generalizing read with
  | nil => simp [run]
  | cons c cs ih =>
    have hwritten : run (.text read) (if c == '\'' then ['\'', '\''] else [c]) =
        some ([], .text (read ++ [c])) := by
      by_cases hc : c = '\''
      · simp [hc, run, step]
      · simp [hc, run, step]
    rw [List.flatMap_cons, List.append_cons]
    exact run_append hwritten (ih (read ++ [c]))

/-- **A text is read back from its literal**, whatever it holds. -/
theorem spells_literal (s : String) : Spells (literal s) (.text s) := by
  refine ⟨.quote s.toList, ?_, by simp [Mode.token?]⟩
  have hbody := run_text [] s.toList
  rw [List.nil_append] at hbody
  have hopen : step .between '\'' = some ([], .text []) := by decide
  have hclose : run (.text s.toList) ['\''] = some ([], .quote s.toList) := by simp [run, step]
  simpa [literal] using run_cons hopen (run_append hbody hclose)

theorem run_word {cs : List Char} (hcs : ∀ c ∈ cs, isLetter c = true) (read : List Char) :
    run (.word read) cs = some ([], .word (read ++ cs)) := by
  induction cs generalizing read with
  | nil => simp [run]
  | cons c cs ih =>
    obtain ⟨hc, hrest⟩ := List.forall_mem_cons.mp hcs
    have hstep : step (.word read) c = some ([], .word (read ++ [c])) := by simp [step, hc]
    simpa using run_cons hstep (ih hrest (read ++ [c]))

/-- A keyword, a name or a number. -/
def isWord (s : String) : Bool := !s.toList.isEmpty && s.toList.all isLetter

theorem spells_word {s : String} (hs : isWord s = true) : Spells s (.word s) := by
  obtain ⟨hne, hletters⟩ : s.toList ≠ [] ∧ ∀ c ∈ s.toList, isLetter c = true := by
    simpa [isWord] using hs
  obtain ⟨c, cs, hcs⟩ := List.exists_cons_of_ne_nil hne
  rw [hcs] at hletters
  obtain ⟨hc, hrest⟩ := List.forall_mem_cons.mp hletters
  have hstep : step .between c = some ([], .word [c]) := by
    simp [step, Mode.close, start, hc, Mode.token?]
  refine ⟨.word s.toList, ?_, by simp [Mode.token?]⟩
  rw [hcs]
  exact run_cons hstep (run_word hrest [c])

/-! ## Values -/

/-- A text that is read as a value. -/
def Denotes (s : String) (v : Datum) : Prop := ∃ t, Spells s t ∧ datum? t = some v

theorem denotes_literal (s : String) : Denotes (literal s) (.text s) :=
  ⟨.text s, spells_literal s, rfl⟩

theorem isDigit_of_mem_toString {n : Nat} {c : Char} (hc : c ∈ (toString n).toList) :
    c.isDigit = true := by
  rw [Nat.toString_eq_repr, Nat.toList_repr] at hc
  exact Nat.isDigit_of_mem_toDigits (by decide) (by decide) hc

theorem denotes_number (n : Nat) : Denotes (toString n) (.number n) := by
  have hne : (toString n).toList ≠ [] := by
    rw [Nat.toString_eq_repr, Nat.toList_repr]
    exact Nat.toDigits_ne_nil
  have hdigits : ∀ c ∈ (toString n).toList, c.isDigit = true := fun _ => isDigit_of_mem_toString
  have hletters : ∀ c ∈ (toString n).toList, isLetter c = true := fun c hc => by
    simp [isLetter, Char.isAlphanum, hdigits c hc]
  have hword : isWord (toString n) = true := by
    rw [isWord, List.all_eq_true.mpr hletters, Bool.and_true, Bool.not_eq_true']
    exact List.isEmpty_eq_false_iff.mpr hne
  -- The letters of the keyword are no digits.
  have hnull : toString n ≠ "NULL" := fun h =>
    absurd (hdigits 'N' (by rw [h]; decide)) (by decide)
  refine ⟨.word (toString n), spells_word hword, ?_⟩
  have hall : (toString n).toList.all Char.isDigit = true := List.all_eq_true.mpr hdigits
  have hvalue : Nat.ofDigitChars 10 (toString n).toList 0 = n := by
    rw [Nat.toString_eq_repr, Nat.toList_repr]
    exact Nat.ofDigitChars_ten_toDigits
  simp only [datum?, hnull, if_false, hall, if_true, hvalue]

theorem denotes_optionalNumber (i : Option Nat) :
    Denotes (optionalNumber i) ((i.map Datum.number).getD .null) := by
  cases i with
  | some n => exact denotes_number n
  | none => exact ⟨.word "NULL", spells_word (by decide), by decide⟩

/-! ## Rows -/

/-- Items between commas are read as their tokens between commas. -/
theorem run_items {ss : List String} {ts : List Token} (h : List.Forall₂ Spells ss ts)
    (hne : ss ≠ []) :
    run .between ((", ".intercalate ss).toList ++ [')']) =
      some (ts.intersperse (.mark ',') ++ [.mark ')'], .between) := by
  have hbracket : start ')' = some ([.mark ')'], .between) := by decide
  have hcomma : start ',' = some ([.mark ','], .between) := by decide
  have hspace : run .between [' '] = some ([], .between) := by decide
  induction h with
  | nil => exact absurd rfl hne
  | @cons s t ss ts hs hss ih =>
    cases hss with
    | nil => simpa using hs.run_end hbracket
    | @cons s' t' ss ts hs' hss =>
      have hitem := run_append (hs.run_end hcomma) hspace
      have hrest := run_append hitem (ih (by simp))
      rw [String.intercalate_cons_cons]
      simpa using hrest

theorem items?_intersperse {α : Type} {item? : Token → Option α} {ts : List Token} {as : List α}
    (h : List.Forall₂ (fun t a => item? t = some a) ts as) (hne : ts ≠ []) (rest : List Token) :
    items? item? (ts.intersperse (.mark ',') ++ .mark ')' :: rest) = some (as, rest) := by
  induction h with
  | nil => exact absurd rfl hne
  | @cons t a ts as ht hts ih =>
    cases hts with
    | nil => simp [items?, ht]
    | @cons t' a' ts as ht' hts =>
      have hrest := ih (by simp)
      rw [List.intersperse_cons_cons, List.cons_append, List.cons_append, items?, hrest, ht]
      rfl

/-! ## Statements -/

theorem split?_append {p : List Token} (hp : Token.mark ';' ∉ p) (ts : List Token) :
    split? (p ++ .mark ';' :: ts) = (split? ts).map (p :: ·) := by
  induction p with
  | nil => simp [split?]
  | cons t p ih =>
    obtain ⟨ht, hrest⟩ := List.ne_and_not_mem_of_not_mem_cons hp
    rw [List.cons_append, split?, if_neg (Ne.symm ht), ih hrest]
    cases split? ts with
    | none => rfl
    | some parts => rfl

theorem notMem_intersperse {x sep : Token} (hsep : x ≠ sep) {ts : List Token} (hx : x ∉ ts) :
    x ∉ ts.intersperse sep := by
  induction ts with
  | nil => simp
  | cons t ts ih =>
    obtain ⟨ht, hrest⟩ := List.ne_and_not_mem_of_not_mem_cons hx
    cases ts with
    | nil => simpa using ht
    | cons t' ts => simpa [ht, hsep] using ih hrest

/-- The text of whole statements, which insert these rows. -/
def Reads (s : String) (rows : List Insert) : Prop :=
  ∃ (ts : List Token) (parts : List (List Token)),
    run .between s.toList = some (ts, .between) ∧
    (∀ rest, split? (ts ++ rest) = (split? rest).map (parts ++ ·)) ∧
    parts.mapM insert? = some rows

theorem Reads.read {s : String} {rows : List Insert} (h : Reads s rows) : read? s = some rows := by
  obtain ⟨ts, parts, hrun, hsplit, hparts⟩ := h
  have htokens : tokens? s = some ts := by simp [tokens?, hrun, Mode.token?]
  have hcut : split? ts = some parts := by simpa [split?] using hsplit []
  simp [read?, htokens, hcut, hparts]

theorem Reads.nil : Reads "" [] := ⟨[], [], rfl, by simp, rfl⟩

/-- Nothing at the end of a text of whole statements reaches into the next one. -/
theorem Reads.append {s s' : String} {rows rows' : List Insert} (h : Reads s rows)
    (h' : Reads s' rows') : Reads (s ++ s') (rows ++ rows') := by
  obtain ⟨ts, parts, hrun, hsplit, hparts⟩ := h
  obtain ⟨ts', parts', hrun', hsplit', hparts'⟩ := h'
  refine ⟨ts ++ ts', parts ++ parts', ?_, fun rest => ?_, ?_⟩
  · rw [String.toList_append]
    exact run_append hrun hrun'
  · rw [List.append_assoc, hsplit, hsplit', Option.map_map]
    congr 1
    funext ps
    simp
  · simp [hparts, hparts']

theorem Reads.join {α : Type} {text : α → String} {rows : α → List Insert} {as : List α}
    (h : ∀ a ∈ as, Reads (text a) (rows a)) :
    Reads (String.join (as.map text)) (as.flatMap rows) := by
  induction as with
  | nil => exact Reads.nil
  | cons a as ih =>
    obtain ⟨ha, has⟩ := List.forall_mem_cons.mp h
    rw [List.map_cons, String.join_cons, List.flatMap_cons]
    exact ha.append (ih has)

theorem exists_tokens {ss : List String} {vs : List Datum} (h : List.Forall₂ Denotes ss vs) :
    ∃ ts, List.Forall₂ Spells ss ts ∧ List.Forall₂ (fun t v => datum? t = some v) ts vs := by
  induction h with
  | nil => exact ⟨[], .nil, .nil⟩
  | cons hs _ ih =>
    obtain ⟨t, hspells, hvalue⟩ := hs
    obtain ⟨ts, hss, hvs⟩ := ih
    exact ⟨t :: ts, .cons hspells hss, .cons hvalue hvs⟩

theorem notMem_of_spells {ss : List String} {ts : List Token} (h : List.Forall₂ Spells ss ts)
    (c : Char) : Token.mark c ∉ ts := by
  induction h with
  | nil => simp
  | cons hs _ ih => exact List.not_mem_cons_of_ne_of_not_mem (hs.ne_mark c).symm ih

/-- The tokens of a statement, with those of its values. -/
def insertTokens (table : String) (columns : List String) (ts : List Token) : List Token :=
  .word "INSERT" :: .word "INTO" :: .word table :: .mark '(' ::
    ((columns.map Token.word).intersperse (.mark ',') ++ .mark ')' ::
      .word "VALUES" :: .mark '(' :: (ts.intersperse (.mark ',') ++ [.mark ')']))

theorem run_insert {table : String} {columns literals : List String} {ts : List Token}
    (htable : Spells table (.word table)) (hcolumns : ∀ c ∈ columns, Spells c (.word c))
    (hliterals : List.Forall₂ Spells literals ts) (hne : columns ≠ []) (hne' : literals ≠ []) :
    run .between (insert table columns literals).toList =
      some (insertTokens table columns ts ++ [.mark ';'], .between) := by
  have hnames : List.Forall₂ Spells columns (columns.map Token.word) :=
    List.forall₂_map_right_iff.mpr (List.forall₂_same.mpr hcolumns)
  have hhead : run .between "INSERT INTO ".toList =
      some ([.word "INSERT", .word "INTO"], .between) := by decide
  have hspace : start ' ' = some ([], .between) := by decide
  have hopen : run .between ['('] = some ([.mark '('], .between) := by decide
  have hmiddle : run .between " VALUES (".toList =
      some ([.word "VALUES", .mark '('], .between) := by decide
  have hend : run .between ";\n".toList = some ([.mark ';'], .between) := by decide
  have hvalues := run_append hmiddle (run_append (run_items hliterals hne') hend)
  have hrow := run_append hopen (run_append (run_items hnames hne) hvalues)
  have hrun := run_append hhead (run_append (htable.run_end hspace) hrow)
  unfold insert
  simpa [insertTokens] using hrun

theorem notMem_insertTokens {table : String} {columns : List String} {ts : List Token}
    (hts : Token.mark ';' ∉ ts) : Token.mark ';' ∉ insertTokens table columns ts := by
  have hcomma : Token.mark ';' ≠ .mark ',' := by decide
  have hnames : Token.mark ';' ∉ columns.map Token.word := by simp
  have hcolumns := notMem_intersperse hcomma hnames
  have hvalues := notMem_intersperse hcomma hts
  simp [insertTokens, hcolumns, hvalues]

theorem insert?_insertTokens {table : String} {columns : List String} {ts : List Token}
    {values : List Datum} (hvalues : List.Forall₂ (fun t v => datum? t = some v) ts values)
    (hne : columns ≠ []) (hlength : values.length = columns.length) :
    insert? (insertTokens table columns ts) = some ⟨table, columns, values⟩ := by
  have hnames : List.Forall₂ (fun t a => name? t = some a) (columns.map Token.word) columns :=
    List.forall₂_map_left_iff.mpr (List.forall₂_same.mpr fun _ _ => rfl)
  have hts : ts ≠ [] := by
    rw [← List.length_pos_iff, hvalues.length_eq, hlength]
    exact List.length_pos_iff.mpr hne
  have hcolumns := items?_intersperse hnames (by simpa using hne)
  have hrow := items?_intersperse hvalues hts []
  simp [insert?, insertTokens, hcolumns, hrow, hlength]

/-- **A statement is read as the row that it inserts**, and as nothing else. -/
theorem reads_insert {table : String} {columns literals : List String} {values : List Datum}
    (htable : Spells table (.word table)) (hcolumns : ∀ c ∈ columns, Spells c (.word c))
    (hliterals : List.Forall₂ Denotes literals values) (hne : columns ≠ [])
    (hlength : values.length = columns.length) :
    Reads (insert table columns literals) [⟨table, columns, values⟩] := by
  obtain ⟨ts, hspells, hvalues⟩ := exists_tokens hliterals
  have hne' : literals ≠ [] := by
    rw [← List.length_pos_iff, hliterals.length_eq, hlength]
    exact List.length_pos_iff.mpr hne
  have hts : Token.mark ';' ∉ ts := notMem_of_spells hspells ';'
  refine ⟨insertTokens table columns ts ++ [.mark ';'], [insertTokens table columns ts],
    run_insert htable hcolumns hspells hne hne', fun rest => ?_, ?_⟩
  · simpa using split?_append (notMem_insertTokens hts) rest
  · simp [insert?_insertTokens hvalues hne hlength]

example : read? (insert "t" ["a", "b"] [literal "it's); --\n", "7"]) =
    some [⟨"t", ["a", "b"], [.text "it's); --\n", .number 7]⟩] := by
  decide +kernel

/-! ## Comments -/

theorem run_comment {cs : List Char} (hcs : '\n' ∉ cs) :
    run .comment (cs ++ ['\n']) = some ([], .between) := by
  induction cs with
  | nil => decide
  | cons c cs ih =>
    obtain ⟨hc, hrest⟩ := List.ne_and_not_mem_of_not_mem_cons hcs
    have hstep : step .comment c = some ([], .comment) := by simp [step, hc.symm]
    exact run_cons hstep (ih hrest)

/-- A line behind two dashes inserts nothing, whatever stands in it. -/
theorem reads_comment {s : String} {cs : List Char} (hs : s.toList = "--".toList ++ (cs ++ ['\n']))
    (hcs : '\n' ∉ cs) : Reads s [] := by
  have hopen : run .between "--".toList = some ([], .comment) := by decide
  have hrun := run_append hopen (run_comment hcs)
  exact ⟨[], [], hs ▸ hrun, by simp, rfl⟩

end Sql

/-! ## Reports -/

namespace Report

/-- What is inserted for a reading. -/
def sqlRow (d : Dataset) (r : Reading) : Sql.Insert where
  table := "suns_values"
  columns := ["model_id", "model", "repeat", "point", "type", "status", "value"]
  values := [.number d.entry.id.toNat, .text d.entry.name, (r.index.map .number).getD .null,
    .text r.name, .text r.point.encoding.display, .text r.value.status.name,
    .text r.value.display]

theorem denotes_sqlLiterals (d : Dataset) (r : Reading) :
    List.Forall₂ Sql.Denotes (sqlLiterals d r) (sqlRow d r).values :=
  .cons (Sql.denotes_number _) <| .cons (Sql.denotes_literal _) <|
    .cons (Sql.denotes_optionalNumber _) <| .cons (Sql.denotes_literal _) <|
    .cons (Sql.denotes_literal _) <| .cons (Sql.denotes_literal _) <|
    .cons (Sql.denotes_literal _) .nil

theorem reads_sqlDataset (d : Dataset) :
    Sql.Reads (sqlDataset d) (d.readings.map (sqlRow d)) := by
  have htable : Sql.Spells sqlTable (.word sqlTable) := Sql.spells_word (by decide)
  have hwords : sqlColumns.all Sql.isWord = true := by decide
  have hcolumns : ∀ c ∈ sqlColumns, Sql.Spells c (.word c) := fun c hc =>
    Sql.spells_word (List.all_eq_true.mp hwords c hc)
  have hreads : ∀ r ∈ d.readings,
      Sql.Reads (Sql.insert sqlTable sqlColumns (sqlLiterals d r)) [sqlRow d r] := fun r _ =>
    Sql.reads_insert htable hcolumns (denotes_sqlLiterals d r) (by decide) rfl
  rw [List.map_eq_flatMap]
  exact Sql.Reads.join hreads

/-- **The statements of a dataset insert its readings and nothing else**, one row for each in their
order, with the texts as they are. -/
theorem read_sqlDataset (d : Dataset) :
    Sql.read? (sqlDataset d) = some (d.readings.map (sqlRow d)) :=
  (reads_sqlDataset d).read

/-- What is inserted for an event. -/
def sqlRows : Event → List Sql.Insert
  | .model _ d => d.readings.map (sqlRow d)
  | .unknown .. => []

theorem reads_statements (e : Event) : Sql.Reads (statements e) (sqlRows e) := by
  cases e with
  | model register d => exact reads_sqlDataset d
  | unknown register id length bytes =>
    -- A number has no line feed among its digits.
    have hfeed : Char.isDigit '\n' ≠ true := by decide
    have hnumber : ∀ n : Nat, '\n' ∉ (toString n).toList := fun n hn =>
      hfeed (Sql.isDigit_of_mem_toString hn)
    have hline : (statements (.unknown register id length bytes)).toList = "--".toList ++
        ((" unknown model ".toList ++ (toString id.toNat).toList ++ " at register ".toList ++
          (toString register).toList ++ ", length ".toList ++ (toString length.toNat).toList) ++
          ['\n']) := by
      unfold statements
      simp [toString]
    apply Sql.reads_comment hline
    simp only [List.mem_append, not_or]
    refine ⟨⟨⟨⟨⟨?_, hnumber _⟩, ?_⟩, hnumber _⟩, ?_⟩, hnumber _⟩ <;> decide

/-- A whole report is read as the rows of its events. -/
theorem read_render (dump : Bool) (events : List Event) :
    Sql.read? (render .sql dump events) = some (events.flatMap sqlRows) :=
  (Sql.Reads.join fun e _ => reads_statements e).read

end Report

end SunSpec
