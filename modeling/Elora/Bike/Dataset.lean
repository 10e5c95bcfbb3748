import Elora.Cxx

/-! # Reading the bike dataset

`readDataset` (`helper/bike-mobility-helper.cc`) reads a CSV file with `std::getline`: a header
line, then one row per line, each cut at `,` into ten values converted with `std::stoi`,
`std::stol` and `std::stod`. `getline` is modelled with the state bits it reads and sets
(`IStream`): on a stream that is no longer good it fails and leaves its string as it was, so a
short line repeats its last value into the missing fields. A conversion that throws is not
caught, and the program terminates (`Result.abort`). `std::stod` is the C library's `strtod`, a
parameter of the model.

* `readDataset_eq`: a file is read line by line, one row per line after the header.
* `rowValues_joinFields`: the ten values of a line of at most ten fields are its fields, the last
  one repeated.
* `parseInteger_toString`: `std::stoi` and `std::stol` read back the decimal text of every integer
  of their type.
* `readDataset_render`: a dataset written out as CSV reads back as itself.
* `readDataset_blank_line`: a file with a blank line after the header never gives a dataset.
* `readDataset_final_line_break`: a file whose last line is not blank reads the same with or
  without a line break after it.
-/

namespace Elora.Bike

/-- A row of the dataset, `BikeData`, with the types its conversions give: `std::stoi` for an
`int`, `std::stol` for a `long`, `std::stod` for a `double`. -/
structure BikeData where
  bikeNumber : String
  duration : Int
  timeStarted : Int
  timeEnded : Int
  startStation : Int
  endStation : Int
  startLat : ℚ
  startLng : ℚ
  endLat : ℚ
  endLng : ℚ
  deriving DecidableEq, Repr

/-! ## `std::getline` -/

/-- What `std::getline` reads and sets of an input stream: the characters left, `eofbit` and
`failbit`. -/
structure IStream where
  rest : List Char
  eof : Bool
  fail : Bool
  deriving DecidableEq, Repr

/-- A stream on `cs` in the good state. -/
def IStream.ofList (cs : List Char) : IStream := ⟨cs, false, false⟩

@[simp] theorem IStream.ofList_fail (cs : List Char) : (IStream.ofList cs).fail = false := rfl

/-- The characters before the first `delim`, and what follows it if there is one. -/
def splitAtDelim (delim : Char) : List Char → List Char × Option (List Char)
  | [] => ([], none)
  | c :: cs =>
    if c = delim then ([], some cs)
    else
      let r := splitAtDelim delim cs
      (c :: r.1, r.2)

/-- `std::getline (is, str, delim)`. On a stream that is not good the sentry sets `failbit` and
`str` keeps its value. Otherwise `str` becomes the characters up to `delim`, which is extracted
and dropped; reaching the end sets `eofbit`, and `failbit` as well when nothing was extracted. -/
def getline (delim : Char) (is : IStream) (str : String) : IStream × String :=
  if is.eof || is.fail then ({ is with fail := true }, str)
  else
    let r := splitAtDelim delim is.rest
    match r.2 with
    | some post => (.ofList post, ⟨r.1⟩)
    | none => (⟨[], true, r.1.isEmpty⟩, ⟨r.1⟩)

theorem splitAtDelim_append {delim : Char} {pre : List Char} (h : delim ∉ pre)
    (post : List Char) : splitAtDelim delim (pre ++ delim :: post) = (pre, some post) := by
  induction pre with
  | nil => simp [splitAtDelim]
  | cons c pre ih =>
    rw [List.mem_cons, not_or] at h
    simp [splitAtDelim, Ne.symm h.1, ih h.2]

theorem splitAtDelim_of_not_mem {delim : Char} {cs : List Char} (h : delim ∉ cs) :
    splitAtDelim delim cs = (cs, none) := by
  induction cs with
  | nil => rfl
  | cons c cs ih =>
    rw [List.mem_cons, not_or] at h
    simp [splitAtDelim, Ne.symm h.1, ih h.2]

/-- A good stream reads up to the delimiter and drops it. -/
theorem getline_append {delim : Char} {pre : List Char} (h : delim ∉ pre) (post : List Char)
    (str : String) :
    getline delim (.ofList (pre ++ delim :: post)) str = (.ofList post, ⟨pre⟩) := by
  simp [getline, IStream.ofList, splitAtDelim_append h]

/-- A good stream without the delimiter reads to its end. -/
theorem getline_of_not_mem {delim : Char} {cs : List Char} (h : delim ∉ cs) (str : String) :
    getline delim (.ofList cs) str = (⟨[], true, cs.isEmpty⟩, ⟨cs⟩) := by
  simp [getline, IStream.ofList, splitAtDelim_of_not_mem h]

/-- At the end of a stream, `getline` fails and leaves its string alone. -/
theorem getline_of_eof {delim : Char} {is : IStream} (h : is.eof = true) (str : String) :
    getline delim is str = ({ is with fail := true }, str) := by
  simp [getline, h]

/-! ## `std::stoi` and `std::stol` -/

/-- `isspace` in the "C" locale. -/
def isSpace (c : Char) : Bool :=
  c == ' ' || c == '\t' || c == '\n' || c == '\x0B' || c == '\x0C' || c == '\r'

/-- The value of decimal digits, accumulated from the left as `strtol` does. -/
def decimalValue (ds : List Char) : ℕ :=
  ds.foldl (fun n d => 10 * n + (d.toNat - '0'.toNat)) 0

/-- `strtol (s, nullptr, 10)` as `std::stoi` (`what = "stoi"`, a 32-bit `int`) and `std::stol`
(`"stol"`, a 64-bit `long`) use it: white space, a sign, then the longest run of digits.
Without a digit it throws `std::invalid_argument`, outside the type `std::out_of_range`. -/
def parseInteger (what : String) (bits : ℕ) (s : String) : Result Int :=
  let cs := s.data.dropWhile isSpace
  let (neg, cs) : Bool × List Char :=
    match cs with
    | '-' :: cs => (true, cs)
    | '+' :: cs => (false, cs)
    | cs => (false, cs)
  let ds := cs.takeWhile Char.isDigit
  if ds.isEmpty then .abort ("std::invalid_argument: " ++ what)
  else
    let v : Int := if neg then -(decimalValue ds : Int) else decimalValue ds
    if -2 ^ (bits - 1) ≤ v ∧ v < 2 ^ (bits - 1) then .ok v
    else .abort ("std::out_of_range: " ++ what)

def stoi (s : String) : Result Int := parseInteger "stoi" 32 s

def stol (s : String) : Result Int := parseInteger "stol" 64 s

theorem digitChar_spec : ∀ k < 10,
    (Nat.digitChar k).isDigit = true ∧ (Nat.digitChar k).toNat - '0'.toNat = k := by
  decide

theorem toDigitsCore_append (fuel n : ℕ) (ds : List Char) :
    Nat.toDigitsCore 10 fuel n ds = Nat.toDigitsCore 10 fuel n [] ++ ds := by
  induction fuel generalizing n ds with
  | zero => rfl
  | succ fuel ih =>
    simp only [Nat.toDigitsCore]
    split_ifs
    · rfl
    · rw [ih _ (_ :: ds), ih _ [_], List.append_assoc, List.singleton_append]

/-- The decimal text of `n` is made of digits, whose value is `n`. -/
theorem toDigitsCore_spec : ∀ (fuel n : ℕ), n < fuel →
    (∀ c ∈ Nat.toDigitsCore 10 fuel n [], c.isDigit = true) ∧
      decimalValue (Nat.toDigitsCore 10 fuel n []) = n
  | 0, _, h => absurd h (Nat.not_lt_zero _)
  | fuel + 1, n, h => by
    obtain ⟨hd, hv⟩ := digitChar_spec (n % 10) (Nat.mod_lt _ (by decide))
    simp only [Nat.toDigitsCore]
    split_ifs with hn
    · refine ⟨by simpa using hd, ?_⟩
      simp only [decimalValue, List.foldl_cons, List.foldl_nil, hv]
      omega
    · obtain ⟨ih₁, ih₂⟩ := toDigitsCore_spec fuel (n / 10) (by omega)
      rw [toDigitsCore_append]
      refine ⟨fun c hc => (List.mem_append.1 hc).elim (ih₁ c)
        fun h => by rw [List.mem_singleton.1 h]; exact hd, ?_⟩
      simp only [decimalValue, List.foldl_append, List.foldl_cons, List.foldl_nil] at ih₂ ⊢
      rw [ih₂, hv]
      omega

theorem isSpace_of_isDigit {c : Char} (h : c.isDigit = true) : isSpace c = false := by
  revert h
  simp only [isSpace, Bool.or_eq_false_iff, beq_eq_false_iff_ne, ne_eq]
  intro h
  refine ⟨⟨⟨⟨⟨?_, ?_⟩, ?_⟩, ?_⟩, ?_⟩, ?_⟩ <;> rintro rfl <;> revert h <;> decide

/-- `strtol` on digits, with or without a minus sign. -/
theorem parseInteger_digits (what : String) (bits : ℕ) {ds : List Char} (hne : ds ≠ [])
    (hd : ∀ c ∈ ds, c.isDigit = true) (neg : Bool) :
    parseInteger what bits ⟨if neg then '-' :: ds else ds⟩ =
      let v : Int := if neg then -(decimalValue ds : Int) else decimalValue ds
      if -2 ^ (bits - 1) ≤ v ∧ v < 2 ^ (bits - 1) then .ok v
      else .abort ("std::out_of_range: " ++ what) := by
  obtain ⟨c, cs, rfl⟩ := List.exists_cons_of_ne_nil hne
  have hc := hd c (List.mem_cons_self _ _)
  have htake : (c :: cs).takeWhile Char.isDigit = c :: cs := List.takeWhile_eq_self_iff.2 hd
  cases neg
  · have h₁ : c ≠ '-' := by rintro rfl; revert hc; decide
    have h₂ : c ≠ '+' := by rintro rfl; revert hc; decide
    simp only [parseInteger, Bool.false_eq_true, if_false, isSpace_of_isDigit hc,
      not_false_eq_true, List.dropWhile_cons_of_neg, List.cons.injEq, h₁, h₂, false_and,
      imp_self, implies_true, htake, List.isEmpty_cons]
  · simp only [parseInteger, if_true, if_false, isSpace, Char.reduceBEq, Bool.or_self,
      Bool.false_eq_true, not_false_eq_true, List.dropWhile_cons_of_neg, htake, List.isEmpty_cons,
      neg_le_neg_iff]

/-- `std::stoi` and `std::stol` read back the decimal text of every integer of their type. -/
theorem parseInteger_toString (what : String) (bits : ℕ) {n : Int} (h₀ : -2 ^ (bits - 1) ≤ n)
    (h₁ : n < 2 ^ (bits - 1)) : parseInteger what bits (toString n) = .ok n := by
  have hne : ∀ m, Nat.toDigitsCore 10 (m + 1) m [] ≠ [] := fun m => by
    simp only [Nat.toDigitsCore]
    split_ifs
    · simp
    · rw [toDigitsCore_append]
      simp
  rcases n with m | m
  · obtain ⟨hd, hv⟩ := toDigitsCore_spec (m + 1) m (Nat.lt_succ_self m)
    have hs : toString (Int.ofNat m) = ⟨if false then '-' :: Nat.toDigitsCore 10 (m + 1) m []
        else Nat.toDigitsCore 10 (m + 1) m []⟩ := rfl
    rw [hs, parseInteger_digits what bits (hne m) hd false]
    simp only [hv, Bool.false_eq_true, if_false]
    exact if_pos ⟨h₀, h₁⟩
  · obtain ⟨hd, hv⟩ := toDigitsCore_spec (m + 2) (m + 1) (Nat.lt_succ_self _)
    have hs : toString (Int.negSucc m) = ⟨if true then '-' :: Nat.toDigitsCore 10 (m + 2) (m + 1) []
        else Nat.toDigitsCore 10 (m + 2) (m + 1) []⟩ := rfl
    rw [hs, parseInteger_digits what bits (hne (m + 1)) hd true]
    rw [Int.negSucc_eq] at h₀ h₁ ⊢
    simp only [hv, if_true, Nat.cast_succ]
    exact if_pos ⟨h₀, h₁⟩

/-! ## Rows and files -/

/-- The values `value` holds after each `getline` of the loop body, one per delimiter. -/
def readValues : IStream → String → List Char → List String
  | _, _, [] => []
  | ss, value, delim :: delims =>
    let r := getline delim ss value
    r.2 :: readValues r.1 r.2 delims

/-- Nine fields end at `,`, the last at the end of the line. -/
def fieldDelims : List Char := [',', ',', ',', ',', ',', ',', ',', ',', ',', '\n']

/-- The ten values `value` takes on `line`, from `std::stringstream ss (line)` and an empty
`value`. -/
def rowValues (line : String) : List String := readValues (.ofList line.data) "" fieldDelims

theorem length_readValues (ss : IStream) (value : String) (delims : List Char) :
    (readValues ss value delims).length = delims.length := by
  induction delims generalizing ss value with
  | nil => rfl
  | cons delim delims ih => simp [readValues, ih]

/-- The loop body of `readDataset` on `line`. Reading a value never throws, so the ten `getline`
calls come first (`rowValues`) and the conversions follow in the source's order; the last pattern
is never reached (`length_readValues`). -/
def parseRow (stod : String → Result ℚ) (line : String) : Result BikeData :=
  match rowValues line with
  | [bikeNumber, duration, timeStarted, timeEnded, startStation, endStation, startLat, startLng,
      endLat, endLng] =>
    (stoi duration).bind fun duration =>
    (stol timeStarted).bind fun timeStarted =>
    (stol timeEnded).bind fun timeEnded =>
    (stoi startStation).bind fun startStation =>
    (stoi endStation).bind fun endStation =>
    (stod startLat).bind fun startLat =>
    (stod startLng).bind fun startLng =>
    (stod endLat).bind fun endLat =>
    (stod endLng).bind fun endLng =>
    .ok ⟨bikeNumber, duration, timeStarted, timeEnded, startStation, endStation, startLat,
      startLng, endLat, endLng⟩
  | _ => .undefined

/-- `while (std::getline (file, line))`: the rows of the lines left in `file`. Every turn that
goes on extracts a character, so a file of `n` characters needs at most `n` turns. -/
def readLines (stod : String → Result ℚ) : ℕ → IStream → String → Result (List BikeData)
  | 0, _, _ => .ok []
  | fuel + 1, file, line =>
    let r := getline '\n' file line
    if r.1.fail then .ok []
    else
      (parseRow stod r.2).bind fun bikeData =>
      (readLines stod fuel r.1 r.2).bind fun dataset => .ok (bikeData :: dataset)

/-- `readDataset (filename)` on a file holding `contents`; `none` is a file that does not open,
which leaves the dataset empty. The first `getline` skips the header. -/
def readDataset (stod : String → Result ℚ) : Option String → Result (List BikeData)
  | none => .ok []
  | some contents =>
    let r := getline '\n' (.ofList contents.data) ""
    readLines stod contents.length r.1 r.2

/-! ## A line, field by field -/

/-- Fields separated by `,`, as a line of the file holds them. -/
def joinFields : List String → List Char
  | [] => []
  | [f] => f.data
  | f :: g :: fs => f.data ++ ',' :: joinFields (g :: fs)

theorem readValues_of_eof {ss : IStream} (h : ss.eof = true) (value : String)
    (delims : List Char) : readValues ss value delims = List.replicate delims.length value := by
  induction delims generalizing ss with
  | nil => rfl
  | cons delim delims ih =>
    rw [readValues, getline_of_eof h, @ih { ss with fail := true } h]
    rfl

/-- Over fields without separators and at most one field per delimiter, `getline` gives the
fields in turn, then the last one again. -/
theorem readValues_joinFields (value : String) :
    ∀ (fs : List String) (k : ℕ), fs ≠ [] → (∀ f ∈ fs, ',' ∉ f.data ∧ '\n' ∉ f.data) →
      fs.length ≤ k + 1 →
      readValues (.ofList (joinFields fs)) value (List.replicate k ',' ++ ['\n']) =
        fs ++ List.replicate (k + 1 - fs.length) (fs.getLastD "")
  | [], _, h, _, _ => absurd rfl h
  | [f], k, _, hf, _ => by
    obtain ⟨h₁, h₂⟩ := hf f (List.mem_singleton_self f)
    cases k with
    | zero => simp [readValues, joinFields, getline_of_not_mem h₂]
    | succ k =>
      rw [List.replicate_succ, List.cons_append, readValues, joinFields, getline_of_not_mem h₁,
        readValues_of_eof rfl]
      simp
  | f :: g :: fs, k, _, hf, hk => by
    obtain ⟨k, rfl⟩ : ∃ k', k = k' + 1 := ⟨k - 1, by simp at hk; omega⟩
    have h₁ := (hf f (List.mem_cons_self _ _)).1
    rw [List.replicate_succ, List.cons_append, readValues, joinFields, getline_append h₁,
      readValues_joinFields _ (g :: fs) k (List.cons_ne_nil _ _)
        (fun x hx => hf x (List.mem_cons_of_mem _ hx)) (by simp at hk ⊢; omega)]
    simp [List.getLastD_cons]

/-- A line of at most ten fields is read as its fields, the last one repeated into the fields the
line lacks. -/
theorem rowValues_joinFields {fs : List String} (hne : fs ≠ []) (hlen : fs.length ≤ 10)
    (hf : ∀ f ∈ fs, ',' ∉ f.data ∧ '\n' ∉ f.data) :
    rowValues ⟨joinFields fs⟩ = fs ++ List.replicate (10 - fs.length) (fs.getLastD "") :=
  readValues_joinFields "" fs 9 hne hf hlen

theorem rowValues_joinFields_two_fields :
    ["b", "5"] ≠ [] ∧ ["b", "5"].length ≤ 10 ∧
      (∀ f ∈ ["b", "5"], ',' ∉ f.data ∧ '\n' ∉ f.data) ∧
      rowValues ⟨joinFields ["b", "5"]⟩ = ["b", "5", "5", "5", "5", "5", "5", "5", "5", "5"] :=
  ⟨by decide, by decide, by decide, rowValues_joinFields (by decide) (by decide) (by decide)⟩

/-! ## A file, line by line -/

theorem readLines_lines (stod : String → Result ℚ) :
    ∀ (ls : List String) (fuel : ℕ) (line : String), (∀ l ∈ ls, '\n' ∉ l.data) →
      ls.length ≤ fuel →
      readLines stod fuel (.ofList (ls.flatMap fun l => l.data ++ ['\n'])) line =
        Result.mapList (parseRow stod) ls
  | [], 0, _, _, _ => rfl
  | [], fuel + 1, line, _, _ => by
    simp [readLines, getline, IStream.ofList, splitAtDelim, Result.mapList]
  | l :: ls, fuel + 1, line, hl, hlen => by
    rw [List.flatMap_cons, List.append_assoc, List.singleton_append, readLines,
      getline_append (hl l (List.mem_cons_self _ _))]
    simp only [IStream.ofList_fail, Bool.false_eq_true, if_false]
    rw [readLines_lines stod ls fuel _ (fun x hx => hl x (List.mem_cons_of_mem _ hx))
      (by simp at hlen; omega)]
    rfl

theorem length_le_length_flatMap (ls : List String) :
    ls.length ≤ (ls.flatMap fun l => l.data ++ ['\n']).length := by
  induction ls with
  | nil => simp
  | cons l ls ih =>
    simp only [List.flatMap_cons, List.length_append, List.length_cons]
    omega

/-- A file of a header and lines, each ended by a line break, is read one row per line. -/
theorem readDataset_eq (stod : String → Result ℚ) {header : String} {ls : List String}
    (hh : '\n' ∉ header.data) (hl : ∀ l ∈ ls, '\n' ∉ l.data) :
    readDataset stod (some ⟨header.data ++ '\n' :: ls.flatMap fun l => l.data ++ ['\n']⟩) =
      Result.mapList (parseRow stod) ls := by
  rw [readDataset, getline_append hh]
  refine readLines_lines stod ls _ _ hl ?_
  have := length_le_length_flatMap ls
  simp only [String.length, List.length_append, List.length_cons]
  omega

/-- On a blank line every `getline` gives the empty string, on which `std::stoi` throws. -/
theorem parseRow_blank (stod : String → Result ℚ) :
    parseRow stod "" = .abort "std::invalid_argument: stoi" := rfl

/-- A blank line after the header makes `std::stoi` throw: such a file never gives a dataset. -/
theorem readDataset_blank_line (stod : String → Result ℚ) {header : String} {ls : List String}
    (hh : '\n' ∉ header.data) (hl : ∀ l ∈ ls, '\n' ∉ l.data) (hblank : "" ∈ ls)
    (dataset : List BikeData) :
    readDataset stod (some ⟨header.data ++ '\n' :: ls.flatMap fun l => l.data ++ ['\n']⟩) ≠
      .ok dataset := by
  rw [readDataset_eq stod hh hl]
  intro h
  obtain ⟨_, hs⟩ := Result.mapList_eq_ok h "" hblank
  rw [parseRow_blank] at hs
  cases hs

theorem readDataset_blank_line_one :
    '\n' ∉ "h".data ∧ (∀ l ∈ [""], '\n' ∉ l.data) ∧ "" ∈ [""] ∧
      readDataset (fun _ => .ok 0)
          (some ⟨"h".data ++ '\n' :: [""].flatMap fun l => l.data ++ ['\n']⟩) ≠ .ok [] :=
  ⟨by decide, by decide, by decide, readDataset_blank_line _ (by decide) (by decide) (by decide) _⟩

/-- A stream at its end gives no more rows. -/
theorem readLines_of_eof (stod : String → Result ℚ) {file : IStream} (h : file.eof = true) :
    ∀ (fuel : ℕ) (line : String), readLines stod fuel file line = .ok []
  | 0, _ => rfl
  | _ + 1, line => by simp [readLines, getline_of_eof h]

/-- Lines ended by a line break, then a last line without one: `getline` reads the last line
with `eofbit` but not `failbit` set, so the loop takes it, and stops at the next call. -/
theorem readLines_lines_last (stod : String → Result ℚ) {last : String}
    (hlast : '\n' ∉ last.data) (hne : last ≠ "") :
    ∀ (ls : List String) (fuel : ℕ) (line : String), (∀ l ∈ ls, '\n' ∉ l.data) →
      ls.length < fuel →
      readLines stod fuel (.ofList ((ls.flatMap fun l => l.data ++ ['\n']) ++ last.data)) line =
        Result.mapList (parseRow stod) (ls ++ [last])
  | [], fuel + 1, line, _, _ => by
    have hne' : last.data.isEmpty = false :=
      List.isEmpty_eq_false.2 fun h => hne (String.ext h)
    rw [List.flatMap_nil, List.nil_append, readLines, getline_of_not_mem hlast]
    simp only [hne', if_false, Bool.false_eq_true]
    rw [readLines_of_eof stod (show (IStream.mk [] true false).eof = true from rfl)]
    rfl
  | l :: ls, fuel + 1, line, hl, hlen => by
    rw [List.flatMap_cons, List.append_assoc, List.append_assoc, List.singleton_append, readLines,
      getline_append (hl l (List.mem_cons_self _ _))]
    simp only [IStream.ofList_fail, Bool.false_eq_true, if_false]
    rw [readLines_lines_last stod hlast hne ls fuel _
      (fun x hx => hl x (List.mem_cons_of_mem _ hx)) (by simp at hlen; omega)]
    rfl

/-- A final line break changes nothing: a file whose last line is not blank reads the same with
or without one. -/
theorem readDataset_final_line_break (stod : String → Result ℚ) {header last : String}
    {ls : List String} (hh : '\n' ∉ header.data) (hl : ∀ l ∈ ls, '\n' ∉ l.data)
    (hlast : '\n' ∉ last.data) (hne : last ≠ "") :
    readDataset stod
        (some ⟨header.data ++ '\n' :: (ls.flatMap fun l => l.data ++ ['\n']) ++ last.data⟩) =
      readDataset stod
        (some ⟨header.data ++ '\n' :: (ls ++ [last]).flatMap fun l => l.data ++ ['\n']⟩) := by
  have hl' : ∀ l ∈ ls ++ [last], '\n' ∉ l.data := fun l hl₁ =>
    (List.mem_append.1 hl₁).elim (hl l) fun h => by rw [List.mem_singleton.1 h]; exact hlast
  rw [readDataset_eq stod hh hl', readDataset, List.append_assoc, List.cons_append,
    getline_append hh]
  refine readLines_lines_last stod hlast hne ls _ _ hl ?_
  have := length_le_length_flatMap ls
  have : last.data.length ≠ 0 := fun h => hne (String.ext (List.length_eq_zero.1 h))
  simp only [String.length, List.length_append, List.length_cons]
  omega

theorem readDataset_final_line_break_one :
    '\n' ∉ "h".data ∧ (∀ l ∈ ([] : List String), '\n' ∉ l.data) ∧ '\n' ∉ "x".data ∧ "x" ≠ "" ∧
      readDataset (fun _ => .ok 0)
          (some ⟨"h".data ++ '\n' :: (([] : List String).flatMap fun l => l.data ++ ['\n']) ++
            "x".data⟩) =
        readDataset (fun _ => .ok 0)
          (some ⟨"h".data ++ '\n' :: ([] ++ ["x"]).flatMap fun l => l.data ++ ['\n']⟩) :=
  ⟨by decide, by decide, by decide, by decide,
    readDataset_final_line_break _ (by decide) (by decide) (by decide) (by decide)⟩

/-! ## Round trip -/

/-- The ten fields of a row as a file holds them: integers in decimal, doubles as `showDouble`
writes them. -/
def rowFields (showDouble : ℚ → String) (d : BikeData) : List String :=
  [d.bikeNumber, toString d.duration, toString d.timeStarted, toString d.timeEnded,
    toString d.startStation, toString d.endStation, showDouble d.startLat, showDouble d.startLng,
    showDouble d.endLat, showDouble d.endLng]

/-- A dataset as a CSV file: the header, then one line per row, each ended by a line break. -/
def renderDataset (showDouble : ℚ → String) (header : String) (dataset : List BikeData) :
    String :=
  ⟨header.data ++ '\n' ::
    (dataset.map fun d => (⟨joinFields (rowFields showDouble d)⟩ : String)).flatMap
      fun l => l.data ++ ['\n']⟩

theorem not_mem_joinFields {c : Char} (hc : c ≠ ',') :
    ∀ {fs : List String}, (∀ f ∈ fs, c ∉ f.data) → c ∉ joinFields fs
  | [], _ => List.not_mem_nil c
  | [f], h => h f (List.mem_singleton_self f)
  | f :: g :: fs, h => by
    simp only [joinFields, List.mem_append, List.mem_cons, not_or]
    exact ⟨h f (List.mem_cons_self _ _), hc,
      not_mem_joinFields hc fun x hx => h x (List.mem_cons_of_mem _ hx)⟩

/-- The decimal text of an integer has no `,` and no line break. -/
theorem toString_plain (n : Int) : ',' ∉ (toString n).data ∧ '\n' ∉ (toString n).data := by
  have hdig : ∀ m, ∀ c ∈ Nat.toDigitsCore 10 (m + 1) m [], c ≠ ',' ∧ c ≠ '\n' :=
    fun m c hc => by
      have := (toDigitsCore_spec (m + 1) m (Nat.lt_succ_self m)).1 c hc
      constructor <;> rintro rfl <;> revert this <;> decide
  rcases n with m | m
  · exact ⟨fun h => (hdig m _ h).1 rfl, fun h => (hdig m _ h).2 rfl⟩
  · have hs : (toString (Int.negSucc m)).data = '-' :: Nat.toDigitsCore 10 (m + 2) (m + 1) [] :=
      rfl
    rw [hs]
    simp only [List.mem_cons, not_or]
    exact ⟨⟨by decide, fun h => (hdig (m + 1) _ h).1 rfl⟩,
      ⟨by decide, fun h => (hdig (m + 1) _ h).2 rfl⟩⟩

/-- What a row needs to be written out and read back: a bike number without separators, integers
within their types, and doubles that `std::stod` reads back from `showDouble`. -/
def Writable (stod : String → Result ℚ) (showDouble : ℚ → String) (d : BikeData) : Prop :=
  (',' ∉ d.bikeNumber.data ∧ '\n' ∉ d.bikeNumber.data) ∧
    (∀ n ∈ [d.duration, d.startStation, d.endStation], -2 ^ 31 ≤ n ∧ n < 2 ^ 31) ∧
    (∀ n ∈ [d.timeStarted, d.timeEnded], -2 ^ 63 ≤ n ∧ n < 2 ^ 63) ∧
    ∀ q ∈ [d.startLat, d.startLng, d.endLat, d.endLng],
      stod (showDouble q) = .ok q ∧ ',' ∉ (showDouble q).data ∧ '\n' ∉ (showDouble q).data

/-- The fields of a writable row hold no separator. -/
theorem rowFields_plain {stod : String → Result ℚ} {showDouble : ℚ → String} {d : BikeData}
    (hd : Writable stod showDouble d) :
    ∀ f ∈ rowFields showDouble d, ',' ∉ f.data ∧ '\n' ∉ f.data := by
  obtain ⟨hb, -, -, hq⟩ := hd
  simp only [rowFields, List.mem_cons, List.mem_singleton, List.not_mem_nil, or_false]
  rintro f (rfl | rfl | rfl | rfl | rfl | rfl | rfl | rfl | rfl | rfl)
  all_goals first | exact hb | exact toString_plain _ | exact (hq _ (by simp)).2

theorem parseRow_rowFields {stod : String → Result ℚ} {showDouble : ℚ → String} {d : BikeData}
    (hd : Writable stod showDouble d) :
    parseRow stod ⟨joinFields (rowFields showDouble d)⟩ = .ok d := by
  have hvalues : rowValues ⟨joinFields (rowFields showDouble d)⟩ = rowFields showDouble d := by
    simpa using readValues_joinFields "" (rowFields showDouble d) 9 (List.cons_ne_nil _ _)
      (rowFields_plain hd) (by simp [rowFields])
  obtain ⟨-, hi, hl, hq⟩ := hd
  have hint : ∀ n ∈ [d.duration, d.startStation, d.endStation], stoi (toString n) = .ok n :=
    fun n hn => parseInteger_toString _ _ (hi n hn).1 (hi n hn).2
  have hlong : ∀ n ∈ [d.timeStarted, d.timeEnded], stol (toString n) = .ok n :=
    fun n hn => parseInteger_toString _ _ (hl n hn).1 (hl n hn).2
  rw [parseRow, hvalues]
  simp [rowFields, hint, hlong, (hq d.startLat (by simp)).1, (hq d.startLng (by simp)).1,
    (hq d.endLat (by simp)).1, (hq d.endLng (by simp)).1]

/-- A dataset written out as CSV, with a header on one line, reads back as itself. -/
theorem readDataset_render (stod : String → Result ℚ) (showDouble : ℚ → String) {header : String}
    {dataset : List BikeData} (hh : '\n' ∉ header.data)
    (hw : ∀ d ∈ dataset, Writable stod showDouble d) :
    readDataset stod (some (renderDataset showDouble header dataset)) = .ok dataset := by
  have hlines : ∀ l ∈ dataset.map fun d => (⟨joinFields (rowFields showDouble d)⟩ : String),
      '\n' ∉ l.data := by
    simp only [List.mem_map]
    rintro l ⟨d, hd, rfl⟩
    exact not_mem_joinFields (by decide) fun f hf => (rowFields_plain (hw d hd) f hf).2
  rw [renderDataset, readDataset_eq stod hh hlines]
  clear hlines
  induction dataset with
  | nil => rfl
  | cons d dataset ih =>
    rw [List.map_cons, Result.mapList, parseRow_rowFields (hw d (List.mem_cons_self _ _)),
      Result.ok_bind, ih (fun x hx => hw x (List.mem_cons_of_mem _ hx)), Result.ok_bind]

theorem readDataset_render_one :
    '\n' ∉ "h".data ∧
      (∀ d ∈ [(⟨"b", 60, 0, 60, 1, 2, 0, 0, 0, 0⟩ : BikeData)],
        Writable (fun _ => .ok 0) (fun _ => "0") d) ∧
      readDataset (fun _ => .ok 0)
          (some (renderDataset (fun _ => "0") "h" [⟨"b", 60, 0, 60, 1, 2, 0, 0, 0, 0⟩])) =
        .ok [⟨"b", 60, 0, 60, 1, 2, 0, 0, 0, 0⟩] := by
  have hw : ∀ d ∈ [(⟨"b", 60, 0, 60, 1, 2, 0, 0, 0, 0⟩ : BikeData)],
      Writable (fun _ => .ok 0) (fun _ => "0") d := by
    simp only [List.mem_singleton, forall_eq, Writable]
    refine ⟨by decide, by decide, by decide, by simp⟩
  exact ⟨by decide, hw, readDataset_render _ _ (by decide) hw⟩

end Elora.Bike
