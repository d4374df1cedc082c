import AskapIce.Regex

/-! `plotting/readData.py`: the readers of `imageQualTest`'s `matches.txt` and `misses.txt`.

    Both read the file line by line in text mode (Python 3's universal newlines: `\r\n` and a lone
    `\r` end a line as `\n` does), split each line at runs of whitespace (`str.split()`), and
    append its first fields to one list per column: 18 for `read_match_data`, 5 for
    `read_miss_data`. The numeric columns are then cast with numpy, in the order of the returned
    tuple.

        line ──split()──▶ fields ──fields[0], …, fields[k-1]──▶ the k column lists
                                 └─ fewer than k fields ──▶ IndexError

    `readColumns_eq` says what the loop computes for every file: column `j` lists the `j`-th field
    of every line, in order, unless some line (a blank one included) has fewer fields than there
    are columns; so a reader raises `IndexError` exactly when a line is short
    (`read_data_index_error`), before any cast is tried. `read_written_table` reads back a table
    written one row per line. -/

namespace AskapIce

/-- The exceptions of the readers. -/
inductive ReadError where
  /-- `IndexError: list index out of range`, from `fields[j]` on a line with at most `j` fields -/
  | index
  /-- `ValueError`, from numpy's cast of the string -/
  | value (s : String)
  deriving DecidableEq, Repr

/-- Python's `str.split()` with no separator, from the current word (reversed): the runs of
    characters that are not whitespace. -/
def splitGo : List Char → List Char → List String
  | [], [] => []
  | [], acc => [⟨acc.reverse⟩]
  | c :: s, acc =>
    if isspace c then
      if acc = [] then splitGo s [] else ⟨acc.reverse⟩ :: splitGo s []
    else splitGo s (c :: acc)

/-- `line.split()`. -/
def splitWords (s : List Char) : List String := splitGo s []

/-- Universal newlines, as a file opened in text mode is read: `\r\n` and a lone `\r` become
    `\n`. The flag says whether the previous character was a `\r`. -/
def translateGo : Bool → List Char → List Char
  | _, [] => []
  | afterCR, c :: s =>
    if c = '\r' then '\n' :: translateGo true s
    else if c = '\n' ∧ afterCR then translateGo false s
    else c :: translateGo false s

/-- The lines `for line in open(filename)` yields, from the current line (reversed): each ends
    with its line break, except a last line without one. -/
def linesGo : List Char → List Char → List (List Char)
  | [], [] => []
  | [], acc => [acc.reverse]
  | c :: s, acc => if c = '\n' then (c :: acc).reverse :: linesGo s [] else linesGo s (c :: acc)

/-- The lines of a file's text. -/
def fileLines (s : List Char) : List (List Char) := linesGo (translateGo false s) []

/-- The body of the `for line` loop with `k` column lists: `col_j.append(fields[j])` for
    `j = 0 … k-1`. A line with fewer than `k` fields raises `IndexError` at the first missing one;
    the lists are locals, so the appends made before it do not matter. -/
def appendFields (cols : List (List String)) (fields : List String) :
    Except ReadError (List (List String)) :=
  if cols.length ≤ fields.length then .ok (List.zipWith (fun col x => col ++ [x]) cols fields)
  else .error .index

/-- The `for line` loop of a reader of `k` columns over a file's text. -/
def readColumns (k : Nat) (s : List Char) : Except ReadError (List (List String)) :=
  (fileLines s).foldlM (fun cols line => appendFields cols (splitWords line)) (List.replicate k [])

/-- `cast[float](array(xs))` or `cast[int](array(xs))`, with numpy's parse of one string:
    `ValueError` on the first string it does not parse. -/
def castAll {α : Type} (parse : String → Option α) (xs : List String) : Except ReadError (List α) :=
  xs.mapM fun x => match parse x with
    | some a => .ok a
    | none => .error (.value x)

/-- numpy's parse of a string as an `int` and as a `float`, into the number types `I` and `F`. -/
structure Casts (I F : Type) where
  toInt : String → Option I
  toFloat : String → Option F

/-- `read_miss_data(filename)`: `type, id, x, y, f`, the last three cast to `float`. -/
def readMissData {I F : Type} (c : Casts I F) (s : List Char) :
    Except ReadError (List String × List String × List F × List F × List F) := do
  let cols ← readColumns 5 s
  let col (j : Nat) := cols.getD j []
  let x ← castAll c.toFloat (col 2)
  let y ← castAll c.toFloat (col 3)
  let f ← castAll c.toFloat (col 4)
  pure (col 0, col 1, x, y, f)

/-- What `read_match_data` returns: the type of fit, then the source's and the reference's
    columns, with the fit's statistics between them. -/
structure MatchData (I F : Type) where
  type : List I
  idS : List String
  xS : List F
  yS : List F
  fS : List F
  aS : List F
  bS : List F
  pS : List F
  chisq : List F
  rms : List F
  ndof : List I
  idR : List String
  xR : List F
  yR : List F
  fR : List F
  aR : List F
  bR : List F
  pR : List F

/-- `read_match_data(filename)`: eighteen columns, cast in the order of the returned tuple. -/
def readMatchData {I F : Type} (c : Casts I F) (s : List Char) :
    Except ReadError (MatchData I F) := do
  let cols ← readColumns 18 s
  let col (j : Nat) := cols.getD j []
  let type ← castAll c.toInt (col 0)
  let xS ← castAll c.toFloat (col 2)
  let yS ← castAll c.toFloat (col 3)
  let fS ← castAll c.toFloat (col 4)
  let aS ← castAll c.toFloat (col 5)
  let bS ← castAll c.toFloat (col 6)
  let pS ← castAll c.toFloat (col 7)
  let chisq ← castAll c.toFloat (col 8)
  let rms ← castAll c.toFloat (col 9)
  let ndof ← castAll c.toInt (col 10)
  let xR ← castAll c.toFloat (col 12)
  let yR ← castAll c.toFloat (col 13)
  let fR ← castAll c.toFloat (col 14)
  let aR ← castAll c.toFloat (col 15)
  let bR ← castAll c.toFloat (col 16)
  let pR ← castAll c.toFloat (col 17)
  pure ⟨type, col 1, xS, yS, fS, aS, bS, pS, chisq, rms, ndof, col 11, xR, yR, fR, aR, bR, pR⟩

/-! ### The loop over the lines -/

/-- The columns of the first `k` fields of each row: column `j` lists the `j`-th field of every
    row, in order. -/
def columnsOf (k : Nat) (rows : List (List String)) : List (List String) :=
  (List.range k).map fun j => rows.map fun r => r.getD j ""

theorem length_columnsOf (k : Nat) (rows : List (List String)) : (columnsOf k rows).length = k := by
  simp [columnsOf]

/-- One more row: each column gains its field, when the row has them all. -/
theorem zipWith_appendFields {k : Nat} {cols : List (List String)} (hc : cols.length = k)
    {r : List String} (hr : k ≤ r.length) (rows : List (List String)) :
    List.zipWith (· ++ ·) (List.zipWith (fun col x => col ++ [x]) cols r) (columnsOf k rows) =
      List.zipWith (· ++ ·) cols (columnsOf k (r :: rows)) := by
  apply List.ext_getElem
  · simp [length_columnsOf, hc]; omega
  · intro j h1 h2
    simp [length_columnsOf, hc] at h1
    simp [columnsOf, List.getElem?_eq_getElem (show j < r.length by omega)]

/-- The loop from accumulated columns: the columns of the remaining rows appended to them, or
    `IndexError` when a row is short. -/
theorem foldlM_appendFields {k : Nat} : ∀ (rows : List (List String)) {cols : List (List String)},
    cols.length = k →
      rows.foldlM appendFields cols = if rows.all (fun r => k ≤ r.length)
        then .ok (List.zipWith (· ++ ·) cols (columnsOf k rows)) else .error .index
  | [], cols, hc => by
    have : List.zipWith (· ++ ·) cols (columnsOf k []) = cols :=
      List.ext_getElem (by simp [length_columnsOf, hc]) fun j _ _ => by simp [columnsOf]
    simp [this]; rfl
  | r :: rows, cols, hc => by
    by_cases hr : k ≤ r.length
    · have hlen : (List.zipWith (fun col x => col ++ [x]) cols r).length = k := by simp; omega
      simp only [List.foldlM_cons, appendFields, hc, hr, if_true, bind, Except.bind]
      rw [foldlM_appendFields rows hlen, zipWith_appendFields hc hr]
      simp [hr]
    · simp [appendFields, hc, hr, bind, Except.bind]

theorem zipWith_replicate_columnsOf (k : Nat) (rows : List (List String)) :
    List.zipWith (· ++ ·) (List.replicate k []) (columnsOf k rows) = columnsOf k rows :=
  List.ext_getElem (by simp [length_columnsOf]) fun j _ _ => by simp

/-- The `for line` loop of a reader of `k` columns: column `j` lists the `j`-th field of every
    line, in order, unless a line has fewer than `k` fields. -/
theorem readColumns_eq (k : Nat) (s : List Char) :
    readColumns k s = if (fileLines s).all (fun l => k ≤ (splitWords l).length)
      then .ok (columnsOf k ((fileLines s).map splitWords)) else .error .index := by
  rw [readColumns, ← List.foldlM_map, foldlM_appendFields _ (List.length_replicate k []),
    zipWith_replicate_columnsOf]
  simp [List.all_map]

/-! ### The casts -/

theorem bind_ne_index {α β : Type} {m : Except ReadError α} {f : α → Except ReadError β}
    (hm : m ≠ .error .index) (hf : ∀ a, f a ≠ .error .index) : m >>= f ≠ .error .index := by
  cases m with
  | error e => intro h; cases h; exact hm rfl
  | ok a => exact hf a

/-- numpy's casts raise `ValueError`, never `IndexError`. -/
theorem castAll_ne_index {α : Type} (parse : String → Option α) :
    ∀ xs, castAll parse xs ≠ .error .index
  | [] => nofun
  | x :: xs => by
    unfold castAll
    rw [List.mapM_cons]
    refine bind_ne_index ?_ fun _ => bind_ne_index (castAll_ne_index parse xs) fun _ => nofun
    cases parse x <;> exact nofun

/-- After a step that never raises `IndexError`, a program raises it exactly when its first
    part does. -/
theorem bind_index_iff {α β : Type} {m : Except ReadError α} {f : α → Except ReadError β}
    (hf : ∀ a, f a ≠ .error .index) : m >>= f = .error .index ↔ m = .error .index := by
  cases m with
  | error e => simp [bind, Except.bind]
  | ok a => simpa [bind, Except.bind] using hf a

/-- A reader raises `IndexError` exactly when its loop does. -/
theorem readMissData_index {I F : Type} (c : Casts I F) (s : List Char) :
    readMissData c s = .error .index ↔ readColumns 5 s = .error .index := by
  refine bind_index_iff fun cols => ?_
  repeat (first | refine bind_ne_index (castAll_ne_index _ _) fun _ => ?_ | exact nofun)

theorem readMatchData_index {I F : Type} (c : Casts I F) (s : List Char) :
    readMatchData c s = .error .index ↔ readColumns 18 s = .error .index := by
  refine bind_index_iff fun cols => ?_
  repeat (first | refine bind_ne_index (castAll_ne_index _ _) fun _ => ?_ | exact nofun)

/-- The loop raises `IndexError` exactly when some line has fewer than `k` fields. -/
theorem readColumns_index (k : Nat) (s : List Char) :
    readColumns k s = .error .index ↔ ∃ l ∈ fileLines s, (splitWords l).length < k := by
  rw [readColumns_eq]
  split <;> simp_all

/-- Each reader raises `IndexError` exactly when some line of the file, a blank one included, has
    fewer fields than the reader has columns; this comes before any `ValueError` of the casts. -/
theorem read_data_index_error {I F : Type} (c : Casts I F) (s : List Char) :
    (readMissData c s = .error .index ↔ ∃ l ∈ fileLines s, (splitWords l).length < 5) ∧
      (readMatchData c s = .error .index ↔ ∃ l ∈ fileLines s, (splitWords l).length < 18) :=
  ⟨(readMissData_index c s).trans (readColumns_index 5 s),
    (readMatchData_index c s).trans (readColumns_index 18 s)⟩

/-! ### Reading back a written table -/

/-- The words of a row as a writer puts them on a line: non-empty, and without whitespace. -/
def Clean (ws : List String) : Prop := ∀ w ∈ ws, w ≠ "" ∧ ∀ c ∈ w.data, isspace c = false

instance (ws : List String) : Decidable (Clean ws) := by unfold Clean; infer_instance

/-- A row written as its words joined by single blanks. -/
def rowText (ws : List String) : List Char := List.intercalate [' '] (ws.map String.data)

/-- A table written one row a line, each line ended by a line break. -/
def writeTable (rows : List (List String)) : List Char :=
  ((rows.map rowText).map (· ++ ['\n'])).flatten

theorem rowText_cons_cons (w w' : String) (ws : List String) :
    rowText (w :: w' :: ws) = w.data ++ ' ' :: rowText (w' :: ws) := by
  simp [rowText, List.intercalate, List.intersperse_cons_cons]

theorem rowText_singleton (w : String) : rowText [w] = w.data := by
  simp [rowText, List.intercalate]

/-- A written row holds no whitespace but its blanks. -/
theorem space_not_mem_rowText {c : Char} (hc : isspace c = true) (hb : c ≠ ' ') :
    ∀ ws : List String, Clean ws → c ∉ rowText ws
  | [], _ => nofun
  | [w], h => fun hm => by
    have := (h w (List.mem_singleton_self w)).2 c (rowText_singleton w ▸ hm)
    rw [hc] at this; cases this
  | w :: w' :: ws, h => by
    have ih := space_not_mem_rowText hc hb (w' :: ws) fun x hx => h x (List.mem_cons_of_mem w hx)
    have hw : c ∉ w.data := fun hm => by
      have := (h w (List.mem_cons_self w _)).2 c hm
      rw [hc] at this; cases this
    simp [rowText_cons_cons, hw, ih, hb]

theorem linesGo_line {l : List Char} (h : '\n' ∉ l) (t : List Char) :
    ∀ acc, linesGo (l ++ '\n' :: t) acc = (acc.reverse ++ l ++ ['\n']) :: linesGo t [] := by
  induction l with
  | nil => intro acc; simp [linesGo]
  | cons c l ih =>
    intro acc
    have hc : c ≠ '\n' := fun hc => h (hc ▸ List.mem_cons_self c l)
    simp [linesGo, hc, ih (fun hm => h (List.mem_cons_of_mem c hm))]

theorem linesGo_join : ∀ ls : List (List Char), (∀ l ∈ ls, '\n' ∉ l) →
    linesGo (ls.map (· ++ ['\n'])).flatten [] = ls.map (· ++ ['\n'])
  | [], _ => rfl
  | l :: ls, h => by
    have ih := linesGo_join ls fun x hx => h x (List.mem_cons_of_mem l hx)
    simp [linesGo_line (h l (List.mem_cons_self l ls)), ih]

/-- A text without `\r` is read as it is. -/
theorem translateGo_of_no_cr : ∀ s : List Char, '\r' ∉ s → translateGo false s = s
  | [], _ => rfl
  | c :: s, h => by
    have hc : c ≠ '\r' := fun hc => h (hc ▸ List.mem_cons_self c s)
    simp [translateGo, hc, translateGo_of_no_cr s fun hm => h (List.mem_cons_of_mem c hm)]

/-- Lines without a line break or a `\r`, each written with a `\n`, are read back as they were
    written. -/
theorem fileLines_join (ls : List (List Char)) (h : ∀ l ∈ ls, '\n' ∉ l ∧ '\r' ∉ l) :
    fileLines (ls.map (· ++ ['\n'])).flatten = ls.map (· ++ ['\n']) := by
  have hcr : '\r' ∉ (ls.map (· ++ ['\n'])).flatten := by
    simp only [List.mem_flatten, List.mem_map, not_exists, not_and]
    rintro _ ⟨l, hl, rfl⟩ hm
    simp only [List.mem_append, List.mem_singleton] at hm
    exact hm.elim (h l hl).2 (by decide)
  rw [fileLines, translateGo_of_no_cr _ hcr, linesGo_join ls fun l hl => (h l hl).1]

theorem splitGo_word {w : List Char} (hw : ∀ c ∈ w, isspace c = false) {c : Char}
    (hc : isspace c = true) (t : List Char) :
    ∀ acc, acc.reverse ++ w ≠ [] → splitGo (w ++ c :: t) acc = ⟨acc.reverse ++ w⟩ :: splitGo t [] := by
  induction w with
  | nil => intro acc hne; simp at hne; simp [splitGo, hc, hne]
  | cons d w ih =>
    intro acc _
    have hd := hw d (List.mem_cons_self d w)
    simp [splitGo, hd, ih (fun x hx => hw x (List.mem_cons_of_mem d hx)) (d :: acc) (by simp)]

/-- `split()` gives back the words of a written row, up to the whitespace after it. -/
theorem splitGo_row : ∀ ws : List String, Clean ws → ∀ {c : Char}, isspace c = true → ∀ t,
    splitGo (rowText ws ++ c :: t) [] = ws ++ splitGo t []
  | [], _, c, hc, t => by simp [rowText, splitGo, hc]
  | [w], h, c, hc, t => by
    obtain ⟨hne, hw⟩ := h w (List.mem_singleton_self w)
    simp [rowText_singleton, splitGo_word hw hc t [] (by simpa using fun he => hne (String.ext he))]
  | w :: w' :: ws, h, c, hc, t => by
    obtain ⟨hne, hw⟩ := h w (List.mem_cons_self w _)
    have ih := splitGo_row (w' :: ws) (fun x hx => h x (List.mem_cons_of_mem w hx)) hc t
    rw [rowText_cons_cons, List.append_assoc, List.cons_append,
      splitGo_word hw (c := ' ') rfl _ [] (by simpa using fun he => hne (String.ext he)), ih]
    rfl

/-- A table written one row a line is read back column by column, unless a row is short. -/
theorem read_written_table (k : Nat) (rows : List (List String)) (hw : ∀ r ∈ rows, Clean r) :
    readColumns k (writeTable rows) =
      if rows.all (fun r => k ≤ r.length) then .ok (columnsOf k rows) else .error .index := by
  have hlines : fileLines (writeTable rows) = (rows.map rowText).map (· ++ ['\n']) :=
    fileLines_join _ fun l hl => by
      obtain ⟨r, hr, rfl⟩ := List.mem_map.mp hl
      exact ⟨space_not_mem_rowText (c := '\n') rfl (by decide) r (hw r hr),
        space_not_mem_rowText (c := '\r') rfl (by decide) r (hw r hr)⟩
  have hsplit : ((rows.map rowText).map (· ++ ['\n'])).map splitWords = rows := by
    rw [List.map_map, List.map_map]
    conv_rhs => rw [← List.map_id rows]
    refine List.map_congr_left fun r hr => ?_
    simpa [splitWords, splitGo] using splitGo_row r (hw r hr) (c := '\n') rfl []
  rw [readColumns_eq, hlines]
  generalize (rows.map rowText).map (· ++ ['\n']) = L at hsplit
  subst hsplit
  simp [List.all_map, Function.comp_def]

theorem two_rows_of_two_columns :
    (∀ r ∈ [["1", "a"], ["2", "b"]], Clean r) ∧
      readColumns 2 (writeTable [["1", "a"], ["2", "b"]]) = .ok [["1", "2"], ["a", "b"]] :=
  ⟨by decide, (read_written_table 2 _ (by decide)).trans rfl⟩

end AskapIce
