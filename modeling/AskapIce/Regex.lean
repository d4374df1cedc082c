import Mathlib.Data.List.Basic

/-! The part of Python's `re` module that `make_depends.py` uses.

    The script tests each line with `re.match("^" + key + "=", line)` and `re.search(";", line)`,
    and rewrites it with `re.sub(r'=\S+;', ...)` or `re.sub(r'=\S+', ...)`. Those patterns are
    literal characters and one greedy `\S+`: `matchHere` is Python's backtracking matcher on such
    a pattern at one position, `subScan` the left-to-right scan of `re.sub`, and `parseTemplate`
    the replacement string as `sre_parse.parse_template` (Python 3.12) reads it, escapes and
    errors included, for a pattern without groups.

        "=x;y z=w"   --re.sub(r'=\S+;', "=V;")-->   "=V; z=w"
         ^^^^^ one word: from its first `=` through its last `;`

    `subScan_value` and `subScan_semi` say what the two substitutions do to a whole line, one
    whitespace-delimited word at a time (`wordwise`): `=\S+` replaces each word's part from its
    first `=` to its end, and `=\S+;` the part from the first `=` through the last `;`, whenever
    `\S+` has a character to take. `parseTemplate_of_no_backslash` says a replacement without a
    backslash is inserted as it is. -/

namespace AskapIce

/-! ### Characters and patterns -/

/-- Python's `str.isspace` on one character, the class `\s` of a `str` pattern (`\S` is the
    rest): `\t\n\v\f\r`, the separators `\x1c`-`\x1f`, the space, and the Unicode spaces. -/
def isspace (c : Char) : Bool :=
  let n := c.toNat
  (9 ≤ n && n ≤ 13) || (28 ≤ n && n ≤ 32) || n == 0x85 || n == 0xA0 || n == 0x1680 ||
    (0x2000 ≤ n && n ≤ 0x200A) || n == 0x2028 || n == 0x2029 || n == 0x202F || n == 0x205F ||
    n == 0x3000

/-- An element of the patterns `make_depends.py` writes. -/
inductive Atom where
  /-- a character that stands for itself -/
  | lit (c : Char)
  /-- `\S+`: one or more characters that are not whitespace, as many as possible -/
  | nonSpacePlus
  deriving DecidableEq, Repr

/-- A pattern of literal characters. -/
def literal (s : String) : List Atom := s.data.map .lit

/-- `r'=\S+;'` -/
def semiPattern : List Atom := [.lit '=', .nonSpacePlus, .lit ';']

/-- `r'=\S+'` -/
def valuePattern : List Atom := [.lit '=', .nonSpacePlus]

/-! ### Matching at one position -/

/-- The backtracking of `\S+`: try the rest of the pattern after `k`, `k - 1`, ..., `1`
    characters; the first length that lets it match wins. -/
def tryLengths (rest : List Char → Option Nat) (s : List Char) : Nat → Option Nat
  | 0 => none
  | k + 1 =>
    match rest (s.drop (k + 1)) with
    | some m => some (k + 1 + m)
    | none => tryLengths rest s k

/-- `re.match(pattern, s)`: the length of the match of `pat` at the start of `s`, the way Python's
    matcher finds it; `\S+` starts from every non-whitespace character it can take. -/
def matchHere : List Atom → List Char → Option Nat
  | [], _ => some 0
  | .lit c :: pat, d :: s => if c = d then (matchHere pat s).map (· + 1) else none
  | .lit _ :: _, [] => none
  | .nonSpacePlus :: pat, s => tryLengths (matchHere pat) s (s.takeWhile (!isspace ·)).length

/-- `re.search(pattern, s)`: a match at some position. -/
def reSearch (pat : List Atom) (s : List Char) : Bool := s.tails.any fun t => (matchHere pat t).isSome

/-! ### Replacement strings -/

/-- A piece of a parsed replacement string. -/
inductive Piece where
  | lit (c : Char)
  /-- `\g<0>`: the whole match -/
  | whole
  deriving DecidableEq, Repr

/-- The replacement for one match `m`. -/
def expand (t : List Piece) (m : List Char) : List Char :=
  t.flatMap fun
    | .lit c => [c]
    | .whole => m

/-- The letter escapes of `sre_parse.ESCAPES` other than `\\`: `\a \b \f \n \r \t \v`. -/
def letterEscape : Char → Option Char
  | 'a' => some (Char.ofNat 7)
  | 'b' => some (Char.ofNat 8)
  | 'f' => some (Char.ofNat 12)
  | 'n' => some '\n'
  | 'r' => some '\r'
  | 't' => some '\t'
  | 'v' => some (Char.ofNat 11)
  | _ => none

def isOctDigit (c : Char) : Bool := '0' ≤ c && c ≤ '7'

def isAsciiLetter (c : Char) : Bool := ('a' ≤ c && c ≤ 'z') || ('A' ≤ c && c ≤ 'Z')

/-- The value of a string of octal digits. -/
def octValue (ds : List Char) : Nat := ds.foldl (fun n d => 8 * n + (d.toNat - '0'.toNat)) 0

/-- `s.getuntil(">", "group name")`: the name up to `>` (a backslash and the character after it
    are one token), and the rest; `none` when no `>` comes or a lone backslash ends the string. -/
def groupName : List Char → Option (List Char × List Char)
  | [] => none
  | ['\\'] => none
  | '>' :: s => some ([], s)
  | '\\' :: c :: s => (groupName s).map fun (n, r) => ('\\' :: c :: n, r)
  | c :: s => (groupName s).map fun (n, r) => (c :: n, r)

/-- The escape `\d` of `parse_template`, followed by `s`: its pieces and the rest of the string,
    or `none` when Python raises. The pattern has no groups, so `\g<n>` is only valid for the
    number `0`; a group name that is an identifier raises `IndexError`, any other `re.error`. -/
def escape (d : Char) (s : List Char) : Option (List Piece × List Char) :=
  if d = 'g' then
    match s with
    | '<' :: s =>
      match groupName s with
      | some (name, rest) =>
        if name ≠ [] ∧ name.all (· == '0') then some ([.whole], rest) else none
      | none => none
    | _ => none
  else if d = '0' then
    -- `\0` and up to two more octal digits
    match s with
    | a :: b :: rest =>
      if isOctDigit a then
        if isOctDigit b then some ([.lit (Char.ofNat (octValue [a, b]))], rest)
        else some ([.lit (Char.ofNat (octValue [a]))], b :: rest)
      else some ([.lit (Char.ofNat 0)], a :: b :: rest)
    | [a] => some ([.lit (Char.ofNat (if isOctDigit a then octValue [a] else 0))],
        if isOctDigit a then [] else [a])
    | [] => some ([.lit (Char.ofNat 0)], [])
  else if d.isDigit then
    -- three octal digits are a character; anything else is a group reference
    match s with
    | a :: b :: rest =>
      if isOctDigit d ∧ isOctDigit a ∧ isOctDigit b ∧ octValue [d, a, b] ≤ 0o377 then
        some ([.lit (Char.ofNat (octValue [d, a, b]))], rest)
      else none
    | _ => none
  else if d = '\\' then some ([.lit '\\'], s)
  else
    match letterEscape d with
    | some c => some ([.lit c], s)
    | none => if isAsciiLetter d then none else some ([.lit '\\', .lit d], s)

/-- `parse_template` with at most `fuel` steps (the length of the string is enough). -/
def parseGo : Nat → List Char → Option (List Piece)
  | _, [] => some []
  | 0, _ :: _ => none
  | _ + 1, ['\\'] => none
  | fuel + 1, '\\' :: d :: s => do
    let (ps, rest) ← escape d s
    let more ← parseGo fuel rest
    pure (ps ++ more)
  | fuel + 1, c :: s => (parseGo fuel s).map (.lit c :: ·)

/-- `sre_parse.parse_template(repl, pattern)`: `none` when `re.sub` raises on `repl`. -/
def parseTemplate (repl : List Char) : Option (List Piece) := parseGo repl.length repl

/-! ### Substitution -/

/-- The scan of `re.sub`: at each position the match of `pat` there, if any, is replaced by the
    template expanded with the matched text, and the scan goes on after it; elsewhere the
    character is kept. `skip` counts the characters of the last match still to pass over. The
    patterns here never match the empty string. -/
def subScan (pat : List Atom) (t : List Piece) : Nat → List Char → List Char
  | _, [] => []
  | skip + 1, _ :: s => subScan pat t skip s
  | 0, c :: s =>
    match matchHere pat (c :: s) with
    | some (n + 1) => expand t ((c :: s).take (n + 1)) ++ subScan pat t n s
    | _ => c :: subScan pat t 0 s

/-- `re.sub(pattern, repl, s)`; `none` when it raises on `repl`. -/
def reSub (pat : List Atom) (repl s : String) : Option String :=
  (parseTemplate repl.data).map fun t => ⟨subScan pat t 0 s.data⟩

/-! ### What the substitutions do to a line -/

/-- Apply `f` to every maximal run of non-whitespace characters, keeping the whitespace; `acc`
    is the run read so far, reversed. -/
def wordwise (f : List Char → List Char) (acc : List Char) : List Char → List Char
  | [] => f acc.reverse
  | c :: s => if isspace c then f acc.reverse ++ c :: wordwise f [] s else wordwise f (c :: acc) s

/-- A word with its part from the first `=` to its end replaced by `r` of that part, when the
    `=` is not the word's last character. -/
def replaceValue (r : List Char → List Char) (w : List Char) : List Char :=
  match w.dropWhile (· != '=') with
  | '=' :: b@(_ :: _) => w.takeWhile (· != '=') ++ r ('=' :: b)
  | _ => w

/-- A word with its part from the first `=` through the last `;` after it replaced by `r` of that
    part, when at least one character stands between the two. -/
def replaceValueSemi (r : List Char → List Char) (w : List Char) : List Char :=
  match w.dropWhile (· != '=') with
  | '=' :: b =>
    match b.reverse.dropWhile (· != ';') with
    | ';' :: mid@(_ :: _) =>
      w.takeWhile (· != '=') ++ r ('=' :: mid.reverse ++ [';']) ++
        (b.reverse.takeWhile (· != ';')).reverse
    | _ => w
  | _ => w

/-! ### Matching at one position -/

@[simp] theorem matchHere_nil (s : List Char) : matchHere [] s = some 0 := rfl

@[simp] theorem matchHere_lit_cons (c d : Char) (pat : List Atom) (s : List Char) :
    matchHere (.lit c :: pat) (d :: s) = if c = d then (matchHere pat s).map (· + 1) else none :=
  rfl

@[simp] theorem matchHere_lit_nil (c : Char) (pat : List Atom) : matchHere (.lit c :: pat) [] = none :=
  rfl

theorem matchHere_nonSpacePlus (pat : List Atom) (s : List Char) :
    matchHere (.nonSpacePlus :: pat) s =
      tryLengths (matchHere pat) s (s.takeWhile (!isspace ·)).length := rfl

/-- Lengths whose rest does not match are passed over. -/
theorem tryLengths_add {rest : List Char → Option Nat} {s : List Char} (k : Nat) :
    ∀ d, (∀ j, k < j → j ≤ k + d → rest (s.drop j) = none) →
      tryLengths rest s (k + d) = tryLengths rest s k
  | 0, _ => rfl
  | d + 1, h => by
    rw [← Nat.add_assoc, tryLengths, h (k + d + 1) (by omega) (by omega)]
    exact tryLengths_add k d fun j hj hjd => h j hj (by omega)

/-- A literal pattern matches exactly the strings it starts. -/
theorem matchHere_literal (xs s : List Char) :
    matchHere (xs.map .lit) s = if xs <+: s then some xs.length else none := by
  induction xs generalizing s with
  | nil => simp
  | cons x xs ih =>
    cases s with
    | nil => simp
    | cons d s =>
      by_cases hx : x = d
      · subst hx; simp [ih, List.cons_prefix_cons]
      · simp [hx, List.cons_prefix_cons]

/-- `re.search(";", s)` finds a `;` exactly when `s` has one. -/
theorem reSearch_char (c : Char) (s : List Char) : reSearch [.lit c] s = decide (c ∈ s) := by
  induction s with
  | nil => rfl
  | cons d s ih =>
    simp only [reSearch, List.tails, List.any_cons] at ih ⊢
    rw [ih]
    by_cases h : c = d <;> simp [h]

/-! ### Words -/

/-- No whitespace in `w`. -/
def Word (w : List Char) : Prop := ∀ c ∈ w, isspace c = false

/-- `s` is empty or starts with whitespace: a word that `s` follows ends there. -/
def SpaceOrEnd (s : List Char) : Prop := ∀ c r, s = c :: r → isspace c = true

theorem takeWhile_word {w rest : List Char} (hw : Word w) (hr : SpaceOrEnd rest) :
    (w ++ rest).takeWhile (!isspace ·) = w := by
  induction w with
  | nil =>
    cases rest with
    | nil => rfl
    | cons c r => simp [hr c r rfl]
  | cons c w ih =>
    simp [hw c (List.mem_cons_self c w), ih fun d hd => hw d (List.mem_cons_of_mem c hd)]

/-- A `;` cannot start `u ++ rest` when `u` has none and `rest` starts with whitespace. -/
theorem matchHere_semicolon_none {u rest : List Char} (hu : ';' ∉ u) (hr : SpaceOrEnd rest) :
    matchHere [.lit ';'] (u ++ rest) = none := by
  cases u with
  | cons d u => simp [List.ne_of_not_mem_cons hu]
  | nil =>
    cases rest with
    | nil => rfl
    | cons c r =>
      have hc : c ≠ ';' := by rintro rfl; exact absurd (hr _ _ rfl) (by decide)
      simp [Ne.symm hc]

/-! ### The scan of `re.sub` -/

section Scan

variable (pat : List Atom) (t : List Piece)

/-- After a match the scan goes on right after it. -/
theorem subScan_skip : ∀ xs s : List Char, subScan pat t xs.length (xs ++ s) = subScan pat t 0 s
  | [], _ => rfl
  | _ :: xs, s => subScan_skip xs s

theorem subScan_of_none {c : Char} {s : List Char} (h : matchHere pat (c :: s) = none) :
    subScan pat t 0 (c :: s) = c :: subScan pat t 0 s := by
  simp [subScan, h]

theorem subScan_of_some {c : Char} {s : List Char} {n : Nat}
    (h : matchHere pat (c :: s) = some (n + 1)) :
    subScan pat t 0 (c :: s) = expand t ((c :: s).take (n + 1)) ++ subScan pat t n s := by
  simp [subScan, h]

/-- A pattern that starts with `=` keeps every other character where it stands. -/
theorem subScan_of_ne {c : Char} (s : List Char) (hpat : ∃ rest, pat = .lit '=' :: rest)
    (hc : c ≠ '=') : subScan pat t 0 (c :: s) = c :: subScan pat t 0 s := by
  obtain ⟨rest, rfl⟩ := hpat
  exact subScan_of_none _ t (by simp [Ne.symm hc])

end Scan

/-! ### `re.sub(r'=\S+', ...)` -/

theorem matchHere_value {w rest : List Char} (hw : Word w) (hr : SpaceOrEnd rest) :
    matchHere valuePattern ('=' :: (w ++ rest)) = if w = [] then none else some (w.length + 1) := by
  simp only [valuePattern, List.cons_append, matchHere_lit_cons, if_true, matchHere_nonSpacePlus,
    takeWhile_word hw hr]
  cases w <;> simp [tryLengths]

theorem replaceValue_cons_ne (r : List Char → List Char) {c : Char} (w : List Char)
    (hc : c ≠ '=') : replaceValue r (c :: w) = c :: replaceValue r w := by
  simp only [replaceValue, List.dropWhile_cons, List.takeWhile_cons, bne_iff_ne, ne_eq, hc,
    not_false_eq_true, decide_True, if_true]
  split <;> simp_all

theorem replaceValue_eq_cons (r : List Char → List Char) (b : List Char) :
    replaceValue r ('=' :: b) = if b = [] then ['='] else r ('=' :: b) := by
  cases b <;> simp [replaceValue]

/-- `=\S+` on one word: the part from its first `=` to its end is replaced. -/
theorem subScan_value_word (t : List Piece) {rest : List Char} (hr : SpaceOrEnd rest) :
    ∀ w, Word w →
      subScan valuePattern t 0 (w ++ rest) = replaceValue (expand t) w ++ subScan valuePattern t 0 rest
  | [], _ => by simp [replaceValue]
  | c :: w, hw => by
    have hw' : Word w := fun d hd => hw d (List.mem_cons_of_mem c hd)
    by_cases hc : c = '='
    · subst hc
      rw [replaceValue_eq_cons, List.cons_append]
      by_cases hnil : w = []
      · subst hnil
        rw [subScan_of_none _ _ (by simpa using matchHere_value hw' hr)]
        rfl
      · rw [subScan_of_some _ _ (n := w.length) (by rw [matchHere_value hw' hr, if_neg hnil]),
          if_neg hnil]
        simp [subScan_skip]
    · rw [List.cons_append, subScan_of_ne valuePattern _ _ ⟨_, rfl⟩ hc, replaceValue_cons_ne _ _ hc,
        subScan_value_word t hr w hw', List.cons_append]

/-! ### `re.sub(r'=\S+;', ...)` -/

/-- `=\S+;` does not match at an `=` when no `;` stands two or more characters after it. -/
theorem matchHere_semi_none {w rest : List Char} (hw : Word w) (hr : SpaceOrEnd rest)
    (hs : ';' ∉ w.drop 1) : matchHere semiPattern ('=' :: (w ++ rest)) = none := by
  have hfail := @tryLengths_add (matchHere [.lit ';']) (w ++ rest) 0 w.length
    fun j hj hjw => by
      rw [List.drop_append_of_le_length (by omega : j ≤ w.length)]
      refine matchHere_semicolon_none (fun h => hs ?_) hr
      rw [show j = 1 + (j - 1) by omega, ← List.drop_drop] at h
      exact List.mem_of_mem_drop h
  rw [Nat.zero_add] at hfail
  simp [semiPattern, matchHere_nonSpacePlus, takeWhile_word hw hr, hfail, tryLengths]

/-- `=\S+;` at an `=` followed by `mid ++ ';' :: post`, the `;` the last of the word: the match
    runs through that `;`. -/
theorem matchHere_semi_some {mid post rest : List Char} (hw : Word (mid ++ ';' :: post))
    (hr : SpaceOrEnd rest) (hmid : mid ≠ []) (hpost : ';' ∉ post) :
    matchHere semiPattern ('=' :: ((mid ++ ';' :: post) ++ rest)) = some (mid.length + 2) := by
  obtain ⟨k, hk⟩ : ∃ k, mid.length = k + 1 :=
    ⟨mid.length - 1, by have := List.length_pos.mpr hmid; omega⟩
  have hsplit : (mid ++ ';' :: post) ++ rest = (mid ++ [';']) ++ (post ++ rest) := by simp
  have hlen : (mid ++ ';' :: post).length = (k + 1) + (1 + post.length) := by simp; omega
  have hskip := @tryLengths_add (matchHere [.lit ';']) ((mid ++ ';' :: post) ++ rest)
    (k + 1) (1 + post.length) fun j hj hjd => by
      obtain ⟨i, rfl⟩ : ∃ i, j = (mid ++ [';']).length + i := ⟨j - (k + 2), by simp; omega⟩
      rw [hsplit, List.drop_append, List.drop_append_of_le_length (by simp at hjd; omega)]
      exact matchHere_semicolon_none (fun h => hpost (List.mem_of_mem_drop h)) hr
  have hhit : ((mid ++ ';' :: post) ++ rest).drop (k + 1) = ';' :: (post ++ rest) := by
    rw [← hk]; simp
  simp only [semiPattern, matchHere_lit_cons, if_true, matchHere_nonSpacePlus,
    takeWhile_word hw hr, hlen, hskip]
  rw [tryLengths, hhit]
  simp [hk]

/-- `=\S+;` leaves a word alone when it has no `;`. -/
theorem subScan_semi_copy (t : List Piece) {rest : List Char} (hr : SpaceOrEnd rest) :
    ∀ u, Word u → ';' ∉ u → subScan semiPattern t 0 (u ++ rest) = u ++ subScan semiPattern t 0 rest
  | [], _, _ => rfl
  | c :: u, hw, hs => by
    have hw' : Word u := fun d hd => hw d (List.mem_cons_of_mem c hd)
    have hs' : ';' ∉ u := fun h => hs (List.mem_cons_of_mem c h)
    rw [List.cons_append, List.cons_append]
    by_cases hc : c = '='
    · subst hc
      rw [subScan_of_none _ _ (matchHere_semi_none hw' hr fun h => hs' (List.mem_of_mem_drop h)),
        subScan_semi_copy t hr u hw' hs']
    · rw [subScan_of_ne semiPattern _ _ ⟨_, rfl⟩ hc, subScan_semi_copy t hr u hw' hs']

/-- A list split at its last `;`, if it has one. -/
theorem split_last_semi (b : List Char) :
    (b.reverse.dropWhile (· != ';') = [] ∧ ';' ∉ b) ∨
      ∃ mid, b.reverse.dropWhile (· != ';') = ';' :: mid ∧
        b = mid.reverse ++ ';' :: (b.reverse.takeWhile (· != ';')).reverse ∧
        ';' ∉ b.reverse.takeWhile (· != ';') := by
  have hsplit := List.takeWhile_append_dropWhile (· != ';') b.reverse
  have hpost : ';' ∉ b.reverse.takeWhile (· != ';') := fun h => by
    simpa using List.mem_takeWhile_imp h
  rcases hd : b.reverse.dropWhile (· != ';') with _ | ⟨c, mid⟩
  · refine .inl ⟨rfl, fun h => hpost ?_⟩
    rw [hd, List.append_nil] at hsplit
    rwa [hsplit, List.mem_reverse]
  · have hc : c = ';' := by
      have := List.head_dropWhile_not (· != ';') b.reverse (by rw [hd]; simp)
      simpa [hd] using this
    subst hc
    refine .inr ⟨mid, rfl, ?_, hpost⟩
    rw [hd] at hsplit
    calc b = b.reverse.reverse := (List.reverse_reverse b).symm
      _ = (b.reverse.takeWhile (· != ';') ++ ';' :: mid).reverse := by rw [hsplit]
      _ = mid.reverse ++ ';' :: (b.reverse.takeWhile (· != ';')).reverse := by simp

theorem replaceValueSemi_cons_ne (r : List Char → List Char) {c : Char} (w : List Char)
    (hc : c ≠ '=') : replaceValueSemi r (c :: w) = c :: replaceValueSemi r w := by
  simp only [replaceValueSemi, List.dropWhile_cons, List.takeWhile_cons, bne_iff_ne, ne_eq, hc,
    not_false_eq_true, decide_True, if_true]
  split <;> (try split) <;> simp_all

/-- `=\S+;` at the first `=` of a word, followed by the rest `b` of the word. -/
theorem subScan_semi_at_eq (t : List Piece) {rest : List Char} (hr : SpaceOrEnd rest) {b : List Char}
    (hb : Word b) :
    subScan semiPattern t 0 ('=' :: (b ++ rest)) =
      replaceValueSemi (expand t) ('=' :: b) ++ subScan semiPattern t 0 rest := by
  rcases split_last_semi b with ⟨hd, hno⟩ | ⟨mid, hd, hbeq, hpost⟩
  · -- no `;`: nothing matches in the word
    rw [subScan_of_none _ _ (matchHere_semi_none hb hr fun h => hno (List.mem_of_mem_drop h)),
      subScan_semi_copy t hr b hb hno]
    simp [replaceValueSemi, hd]
  · generalize hpost' : (b.reverse.takeWhile (· != ';')).reverse = post at hbeq
    have hno : ';' ∉ post := by rw [← hpost']; simpa using hpost
    cases mid with
    | nil =>
      -- the word's only `;` follows the `=` at once: `\S+` has nothing to take before it
      have hrv : replaceValueSemi (expand t) ('=' :: b) = '=' :: b := by simp [replaceValueSemi, hd]
      simp only [List.reverse_nil, List.nil_append] at hbeq
      subst hbeq
      have hw : Word post := fun d hd => hb d (List.mem_cons_of_mem _ hd)
      rw [hrv, subScan_of_none _ _ (matchHere_semi_none hb hr (by simpa using hno)), List.cons_append,
        subScan_of_ne semiPattern _ _ ⟨_, rfl⟩ (by decide), subScan_semi_copy t hr post hw hno]
      rfl
    | cons m ms =>
      have hrv : replaceValueSemi (expand t) ('=' :: b) =
          expand t ('=' :: (m :: ms).reverse ++ [';']) ++ post := by
        rw [← hpost']
        simp [replaceValueSemi, hd]
      rw [hrv]
      subst hbeq
      have hmid : (m :: ms).reverse ≠ [] := by simp
      have hw : Word post := fun d hd => hb d (by simp [hd])
      rw [subScan_of_some _ _ (n := (m :: ms).reverse.length + 1)
        (matchHere_semi_some hb hr hmid hno)]
      have hsplit : ((m :: ms).reverse ++ ';' :: post) ++ rest =
          ((m :: ms).reverse ++ [';']) ++ (post ++ rest) := by simp
      have hlen : ((m :: ms).reverse ++ [';']).length = (m :: ms).reverse.length + 1 := by simp
      rw [hsplit, ← hlen, subScan_skip, subScan_semi_copy t hr post hw hno, List.take_succ_cons,
        List.take_left]
      simp

/-- `=\S+;` on one word: the part from its first `=` through its last `;` is replaced. -/
theorem subScan_semi_word (t : List Piece) {rest : List Char} (hr : SpaceOrEnd rest) :
    ∀ w, Word w →
      subScan semiPattern t 0 (w ++ rest) = replaceValueSemi (expand t) w ++ subScan semiPattern t 0 rest
  | [], _ => by simp [replaceValueSemi]
  | c :: w, hw => by
    have hw' : Word w := fun d hd => hw d (List.mem_cons_of_mem c hd)
    by_cases hc : c = '='
    · subst hc
      exact subScan_semi_at_eq t hr hw'
    · rw [List.cons_append, subScan_of_ne semiPattern _ _ ⟨_, rfl⟩ hc,
        replaceValueSemi_cons_ne _ _ hc, subScan_semi_word t hr w hw', List.cons_append]

/-! ### Whole lines -/

/-- A scan that keeps whitespace and rewrites each word `w` followed by whitespace or the end into
    `f w` is `wordwise f`. -/
theorem eq_wordwise {g f : List Char → List Char} (hnil : g [] = [])
    (hspace : ∀ c s, isspace c = true → g (c :: s) = c :: g s)
    (hword : ∀ w rest, Word w → SpaceOrEnd rest → g (w ++ rest) = f w ++ g rest) :
    ∀ s acc, Word acc → g (acc.reverse ++ s) = wordwise f acc s
  | [], acc, hacc => by
    rw [List.append_nil, ← List.append_nil acc.reverse,
      hword _ _ (fun c hc => hacc c (List.mem_reverse.mp hc)) (fun _ _ h => by cases h), hnil,
      List.append_nil]
    rfl
  | c :: s, acc, hacc => by
    by_cases hc : isspace c = true
    · rw [hword _ _ (fun d hd => hacc d (List.mem_reverse.mp hd)) (fun _ _ h => by cases h; exact hc),
        hspace c s hc, wordwise, if_pos hc, ← eq_wordwise hnil hspace hword s [] (fun _ h => by cases h)]
      rfl
    · have hacc' : Word (c :: acc) := by
        intro d hd
        rcases List.mem_cons.mp hd with rfl | hd
        · simpa using hc
        · exact hacc d hd
      rw [wordwise, if_neg hc, ← eq_wordwise hnil hspace hword s (c :: acc) hacc']
      simp

/-- `re.sub(r'=\S+', repl)` on a line: every word whose first `=` is not its last character has
    its part from that `=` to its end replaced by the template expanded with that part. -/
theorem subScan_value (t : List Piece) (s : List Char) :
    subScan valuePattern t 0 s = wordwise (replaceValue (expand t)) [] s :=
  eq_wordwise rfl (fun c s hc => subScan_of_ne valuePattern t s ⟨_, rfl⟩ fun h => by
      subst h; exact absurd hc (by decide))
    (fun w _ hw hr => subScan_value_word t hr w hw) s [] (fun _ h => by cases h)

/-- `re.sub(r'=\S+;', repl)` on a line: every word with at least one character between its first
    `=` and its last `;` has the part from the `=` through the `;` replaced by the template
    expanded with that part. -/
theorem subScan_semi (t : List Piece) (s : List Char) :
    subScan semiPattern t 0 s = wordwise (replaceValueSemi (expand t)) [] s :=
  eq_wordwise rfl (fun c s hc => subScan_of_ne semiPattern t s ⟨_, rfl⟩ fun h => by
      subst h; exact absurd hc (by decide))
    (fun w _ hw hr => subScan_semi_word t hr w hw) s [] (fun _ h => by cases h)

/-! ### Replacement strings without a backslash -/

/-- A replacement string without a backslash is inserted as it is. -/
theorem parseTemplate_of_no_backslash {repl : List Char} (h : '\\' ∉ repl) :
    parseTemplate repl = some (repl.map .lit) := by
  suffices ∀ fuel, repl.length ≤ fuel → parseGo fuel repl = some (repl.map .lit) from
    this _ le_rfl
  induction repl with
  | nil => intro fuel _; cases fuel <;> rfl
  | cons c cs ih =>
    intro fuel hfuel
    obtain ⟨fuel, rfl⟩ : ∃ f, fuel = f + 1 := ⟨fuel - 1, by simp at hfuel; omega⟩
    have hc : c ≠ '\\' := fun hc => h (hc ▸ List.mem_cons_self c cs)
    have hcs := ih (fun hm => h (List.mem_cons_of_mem c hm)) fuel (by simpa using hfuel)
    cases cs with
    | nil => simp [parseGo, hc]
    | cons d ds => simp [parseGo, hc, hcs]

@[simp] theorem expand_map_lit (repl m : List Char) : expand (repl.map .lit) m = repl := by
  induction repl <;> simp_all [expand]

end AskapIce
