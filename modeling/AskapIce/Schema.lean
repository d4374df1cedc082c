import AskapIce.Regex

/-! `schema_generation/generate.py`: the ODB schema headers of the Sky Model Service.

    For each CASDA description spreadsheet of `files` the script loads the rows marked for the GSM
    (`load`, through pandas; its rows are the input here), makes a `Field` of each row
    (`get_fields`) and writes the fields' text to the header, one block per field:

        /// @brief <description> (<units>)      the units only when there are some
        #pragma db index                         only for an indexed column
        #pragma db null  |  #pragma db not_null
        <C++ type> <name>;
        <empty line>

    `readSchema` reads such a header back line by line. `read_generated_schema` says it recovers
    every field's declaration, in order, whenever no stripped cell holds a line break. A row whose
    datatype `type_map` does not know makes `get_fields` raise before anything is written, so the
    header it was to fill, already opened for writing, is left empty and the script stops
    (`generate_stops_at_unknown_datatype`). -/

namespace AskapIce

/-- Python's `str.strip()`: drop the whitespace at both ends. -/
def strip (s : String) : String :=
  ⟨((s.data.dropWhile isspace).reverse.dropWhile isspace).reverse⟩

/-- `type_map`: the database type of a column to its C++ type. -/
def typeMap : List (String × String) :=
  [("BIGINT", "long"), ("BIGINT UNSIGNED", "unsigned long"), ("REAL", "float"),
    ("DOUBLE", "double"), ("VARCHAR", "std::string"), ("TEXT", "std::string"),
    ("BOOLEAN", "bool"), ("INTEGER", "int"), ("INTEGER UNSIGNED", "unsigned int"),
    ("DATETIME", "boost::posix_time::ptime")]

/-- The C++ types `type_map` maps to. -/
def cppTypes : List String := typeMap.map Prod.snd

/-- One row of the loaded data frame, with the columns `Field` reads: the text cells as the
    converters and `fillna('')` left them, the flag cells by their truth value. -/
structure Row where
  name : String
  description : String
  datatype : String
  units : String
  index : Bool
  nullable : Bool
  lsmView : Bool

/-- A `Field` instance. (`_magic_names` is `magicNames`, the same for every instance.) -/
structure Field where
  name : String
  comment : String
  dtype : String
  units : String
  indexed : Bool
  nullable : Bool
  lsmView : Bool
  deriving DecidableEq, Repr

/-- `Field.__init__`: the stripped cells, the C++ type of the stripped datatype, and the flags;
    `KeyError(key)` (the key is the error) when `type_map` has no entry for the datatype. -/
def Field.ofRow (r : Row) : Except String Field :=
  match typeMap.lookup (strip r.datatype) with
  | none => .error (strip r.datatype)
  | some t => .ok ⟨strip r.name, strip r.description, t, strip r.units, r.index, r.nullable,
      r.lsmView⟩

/-- `self._magic_names = {}`: the pragmas for magic field names. `__init__` sets it empty and
    nothing writes it afterwards. -/
def magicNames : List (String × List String) := []

/-- The text of the `@brief` comment: the description, with the units in brackets when there
    are some. -/
def Field.brief (f : Field) : String :=
  if f.units ≠ "" then f.comment ++ " (" ++ f.units ++ ")" else f.comment

/-- `Field._comment`. -/
def Field.commentLines (f : Field) : List String := ["/// " ++ ("@brief " ++ f.brief)]

/-- The lines `Field.__str__` joins with line breaks. -/
def Field.strLines (f : Field) : List String :=
  f.commentLines ++ (magicNames.lookup f.name).getD [] ++
    (if f.indexed then ["#pragma db index"] else []) ++
    [if f.nullable then "#pragma db null" else "#pragma db not_null"] ++
    [f.dtype ++ " " ++ f.name ++ ";", "\n"]

/-- `Field.__str__`. -/
def Field.str (f : Field) : String := "\n".intercalate f.strLines

/-- `get_fields`: a `Field` of every row, in order; the first `KeyError` stops it. -/
def getFields (rows : List Row) : Except String (List Field) := rows.mapM Field.ofRow

/-- One entry of the `__main__` loop: `open(output, 'w')` empties the header, then `get_fields`
    runs and every field's text is written. What the header holds afterwards, and the
    `KeyError` that stopped the script, if any. -/
def writeSchema (rows : List Row) : String × Option String :=
  match getFields rows with
  | .ok fs => (String.join (fs.map Field.str), none)
  | .error k => ("", some k)

/-- The `__main__` loop over the sheets of `files`: the headers written, in order, and the
    `KeyError` that stopped it. -/
def generate : List (List Row) → List String × Option String
  | [] => ([], none)
  | rows :: sheets =>
    match writeSchema rows with
    | (out, none) => let r := generate sheets; (out :: r.1, r.2)
    | (out, some k) => ([out], some k)

/-! ### Reading a header back -/

/-- A field's declaration as the header states it. -/
structure Decl where
  brief : String
  indexed : Bool
  nullable : Bool
  dtype : String
  name : String
  deriving DecidableEq, Repr

def Field.decl (f : Field) : Decl := ⟨f.brief, f.indexed, f.nullable, f.dtype, f.name⟩

/-- The lines of a text, split at each line break. -/
def lines (s : String) : List String := (s.data.splitOn '\n').map String.mk

/-- The rest of `s` after `pre`, when `s` starts with it. -/
def dropPrefix? (pre s : String) : Option String :=
  if pre.data.isPrefixOf s.data then some ⟨s.data.drop pre.data.length⟩ else none

/-- A declaration line `<C++ type> <name>;` whose type is one of `type_map`'s. -/
def readDeclLine (d : String) : Option (String × String) :=
  cppTypes.findSome? fun t => (dropPrefix? (t ++ " ") d).bind fun rest =>
    if rest.data.getLast? = some ';' then some (t, ⟨rest.data.dropLast⟩) else none

/-- One block from its comment line, whether it had the index pragma, its null pragma and its
    declaration line. -/
def readBlock (c : String) (indexed : Bool) (p d : String) : Option Decl := do
  let brief ← dropPrefix? "/// @brief " c
  let nullable ← if p = "#pragma db null" then some true
    else if p = "#pragma db not_null" then some false else none
  let (dtype, name) ← readDeclLine d
  pure ⟨brief, indexed, nullable, dtype, name⟩

/-- The blocks of a header, given as its lines: for each field its comment line, the index
    pragma if any, the null pragma, the declaration and an empty line; then the empty text after
    the last line break. `none` when a line is out of place. -/
def readFields : List String → Option (List Decl)
  | [] | [_, _] | [_, _, _] => none
  | [e] => if e = "" then some [] else none
  | c :: l1 :: l2 :: l3 :: rest =>
    if l1 = "#pragma db index" then
      match rest with
      | e :: rest' =>
        if e = "" then (readBlock c true l2 l3).bind fun x => (readFields rest').map (x :: ·)
        else none
      | [] => none
    else if l3 = "" then (readBlock c false l1 l2).bind fun x => (readFields rest).map (x :: ·)
    else none

/-- A header read back. -/
def readSchema (s : String) : Option (List Decl) := readFields (lines s)

/-! ### Text -/

theorem intercalate_go_data (s : String) : ∀ (acc : String) (l : List String),
    (String.intercalate.go acc s l).data = acc.data ++ (l.map fun a => s.data ++ a.data).flatten
  | acc, [] => by simp [String.intercalate.go]
  | acc, a :: l => by simp [String.intercalate.go, intercalate_go_data s _ l, List.append_assoc]

theorem join_data : ∀ (l : List String) (acc : String),
    (l.foldl (· ++ ·) acc).data = acc.data ++ (l.map String.data).flatten
  | [], _ => by simp
  | a :: l, acc => by simp [join_data l, List.append_assoc]

theorem join_cons (a : String) (l : List String) : String.join (a :: l) = a ++ String.join l :=
  String.ext (by simp [String.join, join_data])

theorem lines_ne_nil (s : String) : lines s ≠ [] := by
  simp [lines, List.splitOn, List.splitOnP_ne_nil]

/-- A line break ends the first line. -/
theorem lines_mk_cons {l : List Char} (h : '\n' ∉ l) (t : List Char) :
    lines ⟨l ++ '\n' :: t⟩ = ⟨l⟩ :: lines ⟨t⟩ := by
  show List.map _ (List.splitOnP _ (l ++ '\n' :: t)) = _
  rw [List.splitOnP_first _ _ (fun x hx he => h (by rwa [beq_iff_eq.mp he] at hx)) '\n' (by decide)]
  rfl

/-- Lines each ended by a line break, then more text: those lines, then the text's. -/
theorem lines_join (t : List Char) : ∀ ls : List String, (∀ l ∈ ls, '\n' ∉ l.data) →
    lines ⟨(ls.map fun l => l.data ++ ['\n']).flatten ++ t⟩ = ls ++ lines ⟨t⟩
  | [], _ => rfl
  | l :: ls, h => by
    have ih := lines_join t ls fun x hx => h x (List.mem_cons_of_mem l hx)
    simp only [List.map_cons, List.flatten_cons, List.append_assoc, List.singleton_append,
      List.cons_append]
    rw [lines_mk_cons (h l (List.mem_cons_self l ls)), List.nil_append, ih]

theorem dropPrefix?_append (pre s : String) : dropPrefix? pre (pre ++ s) = some s := by
  simp [dropPrefix?]

theorem dropPrefix?_of_not_prefix {pre s : String} (h : ¬ pre.data <+: s.data) :
    dropPrefix? pre s = none := by
  simp [dropPrefix?, List.isPrefixOf_iff_prefix, h]

theorem findSome?_eq_of_unique {α β : Type} [DecidableEq α] {f : α → Option β} {a : α} {b : β} :
    ∀ {l : List α}, a ∈ l → (∀ x ∈ l, f x = if x = a then some b else none) →
      l.findSome? f = some b
  | x :: l, ha, hf => by
    rw [List.findSome?_cons, hf x (List.mem_cons_self x l)]
    by_cases hx : x = a
    · simp [hx]
    · simp only [hx, if_false]
      exact findSome?_eq_of_unique ((List.mem_cons.mp ha).resolve_left (Ne.symm hx))
        fun y hy => hf y (List.mem_cons_of_mem x hy)

/-! ### The lines of a block -/

/-- The null pragma `Field.__str__` writes. -/
def Field.nullPragma (f : Field) : String :=
  if f.nullable then "#pragma db null" else "#pragma db not_null"

/-- The lines of a field's block, the empty one after the declaration included. -/
def Field.blockLines (f : Field) : List String :=
  ("/// @brief " ++ f.brief) :: (if f.indexed then ["#pragma db index"] else []) ++
    [f.nullPragma, f.dtype ++ " " ++ f.name ++ ";", ""]

theorem Field.str_append_data (f : Field) (r : String) :
    (f.str ++ r).data = (f.blockLines.map fun l => l.data ++ ['\n']).flatten ++ r.data := by
  cases hi : f.indexed <;>
    simp [Field.str, Field.strLines, String.intercalate, intercalate_go_data, magicNames,
      Field.commentLines, Field.blockLines, Field.nullPragma, hi]

theorem cppTypes_no_newline : ∀ t ∈ cppTypes, '\n' ∉ t.data := by decide

theorem Field.nullPragma_no_newline (f : Field) : '\n' ∉ f.nullPragma.data := by
  unfold Field.nullPragma; split <;> decide

/-- The text after a field's block starts on a line of its own. -/
theorem lines_str_append {f : Field} (hd : f.dtype ∈ cppTypes) (hb : '\n' ∉ f.brief.data)
    (hn : '\n' ∉ f.name.data) (r : String) : lines (f.str ++ r) = f.blockLines ++ lines r := by
  show lines ⟨(f.str ++ r).data⟩ = _
  rw [Field.str_append_data, lines_join]
  have ht := cppTypes_no_newline _ hd
  have hp := f.nullPragma_no_newline
  cases hi : f.indexed <;> simp [Field.blockLines, hi, hb, hn, ht, hp]

/-! ### Reading a header back -/

/-- No C++ type of `type_map` followed by a blank starts another one followed by a blank. -/
theorem cppTypes_prefix_free : ∀ u ∈ cppTypes, ∀ t ∈ cppTypes,
    (u ++ " ").data.isPrefixOf (t ++ " ").data = true → u = t := by
  decide

/-- A declaration line reads back as its type and name, whatever the name. -/
theorem readDeclLine_decl {t : String} (ht : t ∈ cppTypes) (n : String) :
    readDeclLine (t ++ " " ++ n ++ ";") = some (t, n) := by
  refine findSome?_eq_of_unique ht fun u hu => ?_
  by_cases hut : u = t
  · subst hut
    have : u ++ " " ++ n ++ ";" = u ++ " " ++ (n ++ ";") := by simp [String.append_assoc]
    simp [this, dropPrefix?_append]
  · rw [if_neg hut, dropPrefix?_of_not_prefix]; rfl
    -- the two types would both start the line, so one would start the other
    intro hpre
    have ht' : (t ++ " ").data <+: (t ++ " " ++ n ++ ";").data := by simp
    rcases List.prefix_or_prefix_of_prefix hpre ht' with h | h
    · exact hut (cppTypes_prefix_free u hu t ht (List.isPrefixOf_iff_prefix.mpr h))
    · exact hut (cppTypes_prefix_free t ht u hu (List.isPrefixOf_iff_prefix.mpr h)).symm

/-- A block is read back as its field's declaration. -/
theorem readFields_block {f : Field} (hd : f.dtype ∈ cppTypes) (e : String) (L : List String) :
    readFields (f.blockLines ++ e :: L) = (readFields (e :: L)).map (f.decl :: ·) := by
  have hread (idx : Bool) : readBlock ("/// @brief " ++ f.brief) idx f.nullPragma
      (f.dtype ++ " " ++ f.name ++ ";") = some { f.decl with indexed := idx } := by
    cases hn : f.nullable <;>
      simp [readBlock, Field.nullPragma, hn, dropPrefix?_append, readDeclLine_decl hd, Field.decl]
  have hp : f.nullPragma ≠ "#pragma db index" := by
    unfold Field.nullPragma; split <;> decide
  cases hi : f.indexed <;> simp [Field.blockLines, hi, readFields.eq_5, hp, hread, Field.decl]

/-- The text of fields, each with a C++ type of `type_map` and no line break in its comment or
    name, reads back as their declarations. -/
theorem readSchema_join : ∀ fs : List Field,
    (∀ f ∈ fs, f.dtype ∈ cppTypes ∧ '\n' ∉ f.brief.data ∧ '\n' ∉ f.name.data) →
      readSchema (String.join (fs.map Field.str)) = some (fs.map Field.decl)
  | [], _ => rfl
  | f :: fs, h => by
    obtain ⟨hd, hb, hn⟩ := h f (List.mem_cons_self f fs)
    have ih := readSchema_join fs fun g hg => h g (List.mem_cons_of_mem f hg)
    obtain ⟨e, L, hL⟩ := List.exists_cons_of_ne_nil (lines_ne_nil (String.join (fs.map Field.str)))
    rw [readSchema, hL] at ih
    rw [readSchema, List.map_cons, join_cons, lines_str_append hd hb hn, hL, readFields_block hd,
      ih]
    rfl

/-! ### The fields of a sheet -/

theorem mem_cppTypes_of_lookup {k t : String} (h : typeMap.lookup k = some t) : t ∈ cppTypes := by
  have : ∀ l : List (String × String), l.lookup k = some t → t ∈ l.map Prod.snd := by
    intro l
    induction l with
    | nil => simp [List.lookup_nil]
    | cons p l ih =>
      obtain ⟨a, v⟩ := p
      rw [List.lookup_cons]
      split <;> intro hl
      · cases hl; exact List.mem_cons_self _ _
      · exact List.mem_cons_of_mem _ (ih hl)
  exact this typeMap h

/-- What `Field.__init__` keeps of a row. -/
theorem Field.ofRow_ok {r : Row} {f : Field} (h : Field.ofRow r = .ok f) :
    f.dtype ∈ cppTypes ∧ f.name = strip r.name ∧ f.comment = strip r.description ∧
      f.units = strip r.units := by
  unfold Field.ofRow at h
  split at h
  · cases h
  · rename_i t ht
    cases h
    exact ⟨mem_cppTypes_of_lookup ht, rfl, rfl, rfl⟩

theorem getFields_cons (r : Row) (rows : List Row) :
    getFields (r :: rows) = Field.ofRow r >>= fun g => getFields rows >>= fun gs => pure (g :: gs) :=
  List.mapM_cons ..

/-- Every field `get_fields` returns was made from one of the rows. -/
theorem getFields_ok : ∀ {rows : List Row} {fs : List Field}, getFields rows = .ok fs →
    ∀ f ∈ fs, ∃ r ∈ rows, Field.ofRow r = .ok f
  | [], fs, h => by cases h; simp
  | r :: rows, fs, h => by
    rw [getFields_cons] at h
    cases hr : Field.ofRow r <;> cases hrs : getFields rows <;> simp [hr, hrs, bind, Except.bind, pure, Except.pure] at h
    subst h
    intro f hf
    rcases List.mem_cons.mp hf with rfl | hf
    · exact ⟨r, List.mem_cons_self r rows, hr⟩
    · obtain ⟨x, hx, hxf⟩ := getFields_ok hrs f hf
      exact ⟨x, List.mem_cons_of_mem r hx, hxf⟩

theorem Field.brief_no_newline {f : Field} (hc : '\n' ∉ f.comment.data)
    (hu : '\n' ∉ f.units.data) : '\n' ∉ f.brief.data := by
  unfold Field.brief; split <;> simp [hc, hu]

/-- For every sheet whose stripped names, descriptions and units hold no line break, the header
    `generate.py` writes when `get_fields` succeeds reads back, block by block, as the declarations
    of the fields `get_fields` made, in order: the `@brief` text, an index pragma exactly for the
    indexed columns, exactly one null pragma saying whether the column is nullable, and the
    declaration with the C++ type `type_map` gives and the stripped name. -/
theorem read_generated_schema (rows : List Row) (fs : List Field) (hok : getFields rows = .ok fs)
    (hnl : ∀ r ∈ rows, '\n' ∉ (strip r.name).data ∧ '\n' ∉ (strip r.description).data ∧
      '\n' ∉ (strip r.units).data) :
    readSchema (writeSchema rows).1 = some (fs.map Field.decl) := by
  rw [writeSchema, hok]
  refine readSchema_join fs fun f hf => ?_
  obtain ⟨r, hr, hrf⟩ := getFields_ok hok f hf
  obtain ⟨hd, hn, hc, hu⟩ := Field.ofRow_ok hrf
  obtain ⟨hn', hc', hu'⟩ := hnl r hr
  exact ⟨hd, Field.brief_no_newline (hc ▸ hc') (hu ▸ hu'), hn ▸ hn'⟩

/-- Two rows of a continuum-component sheet: an indexed, non-nullable right ascension in degrees
    (its cells padded with blanks) and a nullable flag without units. -/
theorem two_rows_read_back :
    let rows : List Row := [⟨" ra ", "Right ascension", " DOUBLE", "deg", true, false, true⟩,
      ⟨"flag", "A flag", "BOOLEAN", "", false, true, false⟩]
    let fs : List Field := [⟨"ra", "Right ascension", "double", "deg", true, false, true⟩,
      ⟨"flag", "A flag", "bool", "", false, true, false⟩]
    getFields rows = .ok fs ∧
      (∀ r ∈ rows, '\n' ∉ (strip r.name).data ∧ '\n' ∉ (strip r.description).data ∧
        '\n' ∉ (strip r.units).data) ∧
      readSchema (writeSchema rows).1 =
        some [⟨"Right ascension (deg)", true, false, "double", "ra"⟩,
          ⟨"A flag", false, true, "bool", "flag"⟩] := by
  intro rows fs
  have hok : getFields rows = .ok fs := rfl
  have hnl : ∀ r ∈ rows, '\n' ∉ (strip r.name).data ∧ '\n' ∉ (strip r.description).data ∧
      '\n' ∉ (strip r.units).data := by decide
  exact ⟨hok, hnl, read_generated_schema rows fs hok hnl⟩

/-! ### A datatype `type_map` lacks -/

/-- `get_fields` raises `KeyError` on the first row whose stripped datatype `type_map` lacks. -/
theorem getFields_unknown (post : List Row) {r : Row} (hr : typeMap.lookup (strip r.datatype) = none) :
    ∀ pre : List Row, (∀ x ∈ pre, (typeMap.lookup (strip x.datatype)).isSome) →
      getFields (pre ++ r :: post) = .error (strip r.datatype)
  | [], _ => by
    rw [List.nil_append, getFields_cons]
    simp [Field.ofRow, hr, bind, Except.bind]
  | x :: pre, h => by
    obtain ⟨t, ht⟩ := Option.isSome_iff_exists.mp (h x (List.mem_cons_self x pre))
    rw [List.cons_append, getFields_cons,
      getFields_unknown post hr pre fun y hy => h y (List.mem_cons_of_mem x hy)]
    simp [Field.ofRow, ht, bind, Except.bind]

theorem writeSchema_known : ∀ rows : List Row,
    (∀ x ∈ rows, (typeMap.lookup (strip x.datatype)).isSome) → (writeSchema rows).2 = none
  | [], _ => rfl
  | x :: rows, h => by
    obtain ⟨t, ht⟩ := Option.isSome_iff_exists.mp (h x (List.mem_cons_self x rows))
    have ih := writeSchema_known rows fun y hy => h y (List.mem_cons_of_mem x hy)
    unfold writeSchema at ih ⊢
    rw [getFields_cons]
    cases hrs : getFields rows <;> simp_all [Field.ofRow, bind, Except.bind, pure, Except.pure]

/-- When a sheet has a row whose stripped datatype `type_map` lacks, `get_fields` raises
    `KeyError` on the first such datatype before any field is written: the header opened for that
    sheet is left empty, the headers of the sheets before it hold their fields, the sheets after
    it are never written, and the script stops. -/
theorem generate_stops_at_unknown_datatype (later : List (List Row)) (pre post : List Row)
    {r : Row} (hpre : ∀ x ∈ pre, (typeMap.lookup (strip x.datatype)).isSome)
    (hr : typeMap.lookup (strip r.datatype) = none) :
    ∀ done : List (List Row), (∀ rs ∈ done, ∀ x ∈ rs, (typeMap.lookup (strip x.datatype)).isSome) →
      generate (done ++ (pre ++ r :: post) :: later) =
        (done.map (fun rs => (writeSchema rs).1) ++ [""], some (strip r.datatype))
  | [], _ => by simp [generate, writeSchema, getFields_unknown post hr pre hpre]
  | rs :: done, h => by
    have hrs := writeSchema_known rs (h rs (List.mem_cons_self rs done))
    have ih := generate_stops_at_unknown_datatype later pre post hpre hr done
      fun x hx => h x (List.mem_cons_of_mem rs hx)
    rcases hw : writeSchema rs with ⟨out, _ | k⟩
    · simp [generate, hw, ih]
    · simp [hw] at hrs

/-- A sheet whose second row gives its type as `FLOAT`, which `type_map` does not list, after a
    sheet of one `DOUBLE` column: the first header holds its field, the second is left empty,
    and the third sheet is never written. -/
theorem float_column_empties_its_header :
    let ok : Row := ⟨"ra", "Right ascension", "DOUBLE", "deg", true, false, true⟩
    let bad : Row := ⟨"flux", "Flux density", " FLOAT", "mJy", false, true, true⟩
    (∀ x ∈ [ok], (typeMap.lookup (strip x.datatype)).isSome) ∧
      typeMap.lookup (strip bad.datatype) = none ∧
      (∀ rs ∈ [[ok]], ∀ x ∈ rs, (typeMap.lookup (strip x.datatype)).isSome) ∧
      generate ([[ok]] ++ ([ok] ++ bad :: [ok]) :: [[ok]]) =
        (["/// @brief Right ascension (deg)\n#pragma db index\n#pragma db not_null\ndouble ra;\n\n",
          ""], some "FLOAT") := by
  intro ok bad
  have hpre : ∀ x ∈ [ok], (typeMap.lookup (strip x.datatype)).isSome := by decide
  have hr : typeMap.lookup (strip bad.datatype) = none := by decide
  have hdone : ∀ rs ∈ [[ok]], ∀ x ∈ rs, (typeMap.lookup (strip x.datatype)).isSome := by decide
  exact ⟨hpre, hr, hdone,
    (generate_stops_at_unknown_datatype [[ok]] [ok] [ok] hpre hr [[ok]] hdone).trans (by decide)⟩

end AskapIce
