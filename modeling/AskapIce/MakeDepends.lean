import AskapIce.Regex
import AskapIce.Config

/-! `make_depends.py`: rewrite each `dependencies.<system>` file for this host.

    The script loads the package table `yanda_packages` (a JSON object of package names and
    paths), replaces each value `ENV:<var>` by the environment variable `<var>` when it is set
    (`findSystemOnes`), and then, for every line of every `dependencies.<system>` file, writes to
    `<root>.<hostname>` one string per key `p` of the table whose pattern `^p=` matches the line,
    the line rewritten with `p`'s value, or the line itself when no key matches.

        line ──▶ for each key p:  re.match("^p=", line) ──yes──▶ write re.sub(..., line)
              └─ no key matched ──────────────────────────────▶ write line

    The keys are spliced into the pattern unescaped. A key with a metacharacter of Python's
    regular expressions is a pattern the model does not parse (`KeyRegex` answers for it); a key
    without one matches the lines that start with it and `=` (`keyMatches_literal`). The rewrite
    is one of the two substitutions of `Regex`, whose replacement `"=" + value` is a template:
    a value without a backslash is inserted as it is (`substitute_of_no_backslash`).
    `make_depends_rewrites_lines` says what is written for every table and every file. -/

namespace AskapIce

/-- `yanda_packages`: package names and their paths, in the order of the JSON object's keys. -/
abbrev Packages := List (String × String)

/-- The `# find the system ones` loop: a value that `re.match("^ENV:", ...)` matches names the
    environment variable between its first and second `:`; when that variable is set and not
    empty, it becomes the value. -/
def findSystemOnes (environ : String → Option String) (t : Packages) : Packages :=
  t.map fun (k, v) =>
    if (matchHere (literal "ENV:") v.data).isSome then
      match environ ((split v ':').getD 1 "") with
      | some val => if val ≠ "" then (k, val) else (k, v)
      | none => (k, v)
    else (k, v)

/-- The metacharacters of Python's regular expressions. -/
def isMeta (c : Char) : Bool := ".^$*+?\x7b\x7d[]\\|()".data.contains c

/-- What `re.match("^" + p + "=", line)` answers for a key `p` with a metacharacter, a pattern
    the model does not parse: a match or not, or `none` when `re` raises on the pattern. -/
structure KeyRegex where
  matchKey : String → String → Option Bool

/-- `re.match("^" + eachpackage + "=", line)`; `none` when it raises. A key without a
    metacharacter is a pattern of literal characters. -/
def keyMatches (rx : KeyRegex) (p line : String) : Option Bool :=
  if p.data.all (!isMeta ·) then some (matchHere (literal (p ++ "=")) line.data).isSome
  else rx.matchKey p line

/-- The string written for a key with value `v`: with a `;` in the line,
    `re.sub(r'=\S+;', "=" + v + ";", line)`, otherwise `re.sub(r'=\S+', "=" + v, line)`; `none`
    when `re.sub` raises on the replacement. -/
def substitute (v line : String) : Option String :=
  if reSearch (literal ";") line.data then reSub semiPattern ("=" ++ v ++ ";") line
  else reSub valuePattern ("=" ++ v) line

/-- The `for eachpackage` loop on one line: the strings written, in order, and whether `re`
    raised, which ends the script. (`matched` is set exactly when a string has been written.) -/
def packageLoop (rx : KeyRegex) (line : String) : Packages → List String × Bool
  | [] => ([], false)
  | (p, v) :: t =>
    match keyMatches rx p line with
    | none => ([], true)
    | some false => packageLoop rx line t
    | some true =>
      match substitute v line with
      | none => ([], true)
      | some out =>
        let r := packageLoop rx line t
        (out :: r.1, r.2)

/-- One line: what the package loop writes, or the line itself when no key matched. -/
def rewriteLine (rx : KeyRegex) (t : Packages) (line : String) : List String × Bool :=
  match packageLoop rx line t with
  | ([], false) => ([line], false)
  | r => r

/-- The `for line in lines` loop over `original.readlines()`: what is written to
    `<root>.<hostname>`, and whether the script stopped on an exception. -/
def rewriteFile (rx : KeyRegex) (t : Packages) : List String → List String × Bool
  | [] => ([], false)
  | line :: lines =>
    let r := rewriteLine rx t line
    if r.2 then r
    else
      let rs := rewriteFile rx t lines
      (r.1 ++ rs.1, rs.2)

/-- `make_depends.py` on one dependencies file, from the table as loaded. -/
def makeDepends (rx : KeyRegex) (environ : String → Option String) (t : Packages)
    (lines : List String) : List String × Bool :=
  rewriteFile rx (findSystemOnes environ t) lines

/-! ### Keys and substitutions -/

/-- A key without metacharacters matches the lines that start with it and `=`. -/
theorem keyMatches_literal (rx : KeyRegex) {p : String} (line : String)
    (hp : p.data.all (!isMeta ·)) :
    keyMatches rx p line = some (startswith line (p ++ "=")) := by
  simp only [keyMatches, hp, if_true, literal, matchHere_literal, startswith]
  split <;> simp_all [← List.isPrefixOf_iff_prefix]

/-- The substitution as `Regex` computes it, word by word, with the value as a template. -/
theorem substitute_eq (v line : String) :
    substitute v line =
      if ';' ∈ line.data then
        (parseTemplate ("=" ++ v ++ ";").data).map fun t =>
          ⟨wordwise (replaceValueSemi (expand t)) [] line.data⟩
      else
        (parseTemplate ("=" ++ v).data).map fun t =>
          ⟨wordwise (replaceValue (expand t)) [] line.data⟩ := by
  rw [substitute, show literal ";" = [.lit ';'] from rfl, reSearch_char]
  by_cases h : ';' ∈ line.data <;> simp [h, reSub, subScan_semi, subScan_value]

/-- A value without a backslash is written as it is. -/
theorem substitute_of_no_backslash {v : String} (line : String) (hv : '\\' ∉ v.data) :
    substitute v line = some ⟨if ';' ∈ line.data then
      wordwise (replaceValueSemi fun _ => '=' :: v.data ++ [';']) [] line.data
    else wordwise (replaceValue fun _ => '=' :: v.data) [] line.data⟩ := by
  have h1 : '\\' ∉ ("=" ++ v ++ ";").data := by simpa using hv
  have h2 : '\\' ∉ ("=" ++ v).data := by simpa using hv
  have he (r : List Char) : expand (r.map .lit) = fun _ => r := funext (expand_map_lit r)
  rw [substitute_eq, parseTemplate_of_no_backslash h1, parseTemplate_of_no_backslash h2]
  by_cases h : ';' ∈ line.data <;> simp only [h, if_true, if_false, Option.map_some', he] <;> simp

/-- `re.sub` expands a backslash escape of the value: `\t` becomes a tab. -/
example : substitute "C:\\temp" "a=b\n" = some "a=C:\temp\n" := by decide

/-! ### One line -/

/-- The keys of `t` whose pattern matches `line`, in the table's order. -/
def matchingKeys (rx : KeyRegex) (line : String) (t : Packages) : Packages :=
  t.filter fun pv => keyMatches rx pv.1 line == some true

/-- When nothing raises, the package loop writes the substitution of each matching key, in order. -/
theorem packageLoop_writes (rx : KeyRegex) (line : String) :
    ∀ t, (packageLoop rx line t).2 = false →
      List.Forall₂ (fun pv out => substitute pv.2 line = some out) (matchingKeys rx line t)
        (packageLoop rx line t).1
  | [], _ => .nil
  | (p, v) :: t, h => by
    simp only [packageLoop, matchingKeys, List.filter_cons] at h ⊢
    cases hk : keyMatches rx p line with
    | none => simp [hk] at h
    | some b =>
      cases b
      · simpa [hk] using packageLoop_writes rx line t (by simpa [hk] using h)
      · cases hs : substitute v line with
        | none => simp [hk, hs] at h
        | some out =>
          simp only [hk, hs] at h ⊢
          exact .cons hs (packageLoop_writes rx line t h)

/-- With keys free of metacharacters and values free of backslashes, no line raises. -/
theorem packageLoop_no_raise (rx : KeyRegex) (line : String) :
    ∀ t : Packages, (∀ pv ∈ t, pv.1.data.all (!isMeta ·) ∧ '\\' ∉ pv.2.data) →
      (packageLoop rx line t).2 = false
  | [], _ => rfl
  | (p, v) :: t, h => by
    have ih := packageLoop_no_raise rx line t fun pv hpv => h pv (List.mem_cons_of_mem _ hpv)
    obtain ⟨hp, hv⟩ := h (p, v) (List.mem_cons_self _ _)
    cases hb : startswith line (p ++ "=") <;>
      simp [packageLoop, keyMatches_literal rx line hp, hb, substitute_of_no_backslash line hv, ih]

theorem rewriteLine_raised (rx : KeyRegex) (t : Packages) (line : String) :
    (rewriteLine rx t line).2 = (packageLoop rx line t).2 := by
  unfold rewriteLine
  split <;> simp_all

theorem rewriteLine_of_loop {rx : KeyRegex} {t : Packages} {line : String}
    (h : (packageLoop rx line t).2 = false) :
    (rewriteLine rx t line) =
      (if (packageLoop rx line t).1 = [] then [line] else (packageLoop rx line t).1, false) := by
  unfold rewriteLine
  rcases hl : packageLoop rx line t with ⟨_ | ⟨o, os⟩, _ | _⟩ <;> simp_all

/-! ### One file -/

theorem rewriteFile_ok (rx : KeyRegex) (t : Packages) :
    ∀ lines, (∀ l ∈ lines, (rewriteLine rx t l).2 = false) →
      rewriteFile rx t lines = (lines.flatMap fun l => (rewriteLine rx t l).1, false)
  | [], _ => rfl
  | l :: ls, h => by
    simp [rewriteFile, h l (List.mem_cons_self l ls),
      rewriteFile_ok rx t ls fun x hx => h x (List.mem_cons_of_mem l hx)]

theorem rewriteFile_raise (rx : KeyRegex) (t : Packages) (l : String) (post : List String) :
    ∀ pre, (∀ x ∈ pre, (rewriteLine rx t x).2 = false) → (rewriteLine rx t l).2 = true →
      rewriteFile rx t (pre ++ l :: post) =
        (pre.flatMap (fun x => (rewriteLine rx t x).1) ++ (rewriteLine rx t l).1, true)
  | [], _, hl => by simp [rewriteFile, hl, Prod.ext_iff]
  | x :: pre, h, hl => by
    simp [rewriteFile, h x (List.mem_cons_self x pre),
      rewriteFile_raise rx t l post pre (fun y hy => h y (List.mem_cons_of_mem x hy)) hl]

/-- What `make_depends.py` writes for every table (as the `ENV:` loop leaves it) and every
    dependencies file. The lines are rewritten in order, each into what its package loop writes,
    until one raises, which ends the script (with what that line wrote before). A line that does not
    raise is written once per key whose pattern matches it, in the table's order, as that key's
    substitution, and is written as it is when no key matches. Nothing raises when no key has a
    metacharacter and no value a backslash. A key without metacharacters matches the lines that
    start with it and `=`; the substitution rewrites every word of the line, reading the value as a
    template, and a value without a backslash is inserted as it is. -/
theorem make_depends_rewrites_lines (rx : KeyRegex) (t : Packages) :
    (∀ lines, (∀ l ∈ lines, (rewriteLine rx t l).2 = false) →
      rewriteFile rx t lines = (lines.flatMap fun l => (rewriteLine rx t l).1, false)) ∧
    (∀ pre l post, (∀ x ∈ pre, (rewriteLine rx t x).2 = false) → (rewriteLine rx t l).2 = true →
      rewriteFile rx t (pre ++ l :: post) =
        (pre.flatMap (fun x => (rewriteLine rx t x).1) ++ (rewriteLine rx t l).1, true)) ∧
    (∀ line, (rewriteLine rx t line).2 = false →
      ∃ outs, List.Forall₂ (fun pv out => substitute pv.2 line = some out)
          (matchingKeys rx line t) outs ∧
        (rewriteLine rx t line).1 = if outs = [] then [line] else outs) ∧
    ((∀ pv ∈ t, pv.1.data.all (!isMeta ·) ∧ '\\' ∉ pv.2.data) →
      ∀ line, (rewriteLine rx t line).2 = false) ∧
    (∀ p line, p.data.all (!isMeta ·) →
      keyMatches rx p line = some (startswith line (p ++ "="))) ∧
    (∀ v line, substitute v line =
      if ';' ∈ line.data then
        (parseTemplate ("=" ++ v ++ ";").data).map fun t =>
          ⟨wordwise (replaceValueSemi (expand t)) [] line.data⟩
      else
        (parseTemplate ("=" ++ v).data).map fun t =>
          ⟨wordwise (replaceValue (expand t)) [] line.data⟩) ∧
    (∀ v line, '\\' ∉ v.data → substitute v line = some ⟨if ';' ∈ line.data then
      wordwise (replaceValueSemi fun _ => '=' :: v.data ++ [';']) [] line.data
    else wordwise (replaceValue fun _ => '=' :: v.data) [] line.data⟩) := by
  refine ⟨rewriteFile_ok rx t, fun pre l post => rewriteFile_raise rx t l post pre, ?_,
    fun h line => (rewriteLine_raised rx t line).trans (packageLoop_no_raise rx line t h),
    fun _ line hp => keyMatches_literal rx line hp, substitute_eq,
    fun _ line hv => substitute_of_no_backslash line hv⟩
  intro line h
  rw [rewriteLine_raised] at h
  exact ⟨_, packageLoop_writes rx line t h, by rw [rewriteLine_of_loop h]⟩

/-- Two keys that both match a line each write it, and the value of every word is replaced: from
    one input line the script writes two, neither of which keeps `d=e`. (Neither key has a
    metacharacter, so the oracle is never asked; no value is `ENV:`.) -/
theorem overlapping_keys_write_line_twice :
    makeDepends ⟨fun _ _ => none⟩ (fun _ => none) [("a", "1"), ("a=b", "2")] ["a=b=c d=e\n"] =
      (["a=1 d=1\n", "a=2 d=2\n"], false) := rfl

end AskapIce
