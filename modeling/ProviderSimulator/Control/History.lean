/-
**The history of all providers as one timeline.**

`get_history` reads the rows of the providers that a query picks, sorts them by their time, and gives each one its place
(`call_order`) and its group (`correlation_group`). Rows of one request id and one method are in a group while they lie
within 50 ms after its first row: these are the calls that one client request fanned out to. Then `last` and `max` keep
the end of the timeline.

* `historyRowFilter` — the filters of a query that test a row, and `RowFilter.matches` — the test;
* `requestIdAsKey` — a request id as a part of a dictionary key: an id that is a list or an object is keyed by its text;
* `correlateRows` — the loop over the sorted rows, which is the timeline of `Lib.Timeline`;
* `getHistory` — the whole call;
* `Correlated` — what the claimed timeline is, and `history_correlated` — **every answer has it**, and a cut keeps the
  places and the groups.

A method is a part of the key as it is, so a row whose method is a list or an object stops the call with a `TypeError`.
No listener finishes a row with such a method (`Simulator.KeyedRows`).
-/

import Mathlib.Tactic.Common
import Mathlib.Tactic.NormNum
import ProviderSimulator.Domain.CallLogRenewed
import ProviderSimulator.Domain.Provider
import ProviderSimulator.Lib.Timeline
import ProviderSimulator.Python.Numerals

namespace ProviderSimulator.Python

/-- A hashable value as the language compares dictionary keys: a Boolean and a float by their number. A NaN is the one
object that the JSON reader gives for it, so it is itself. -/
inductive HashKey
  | none
  | number (value : PyFloat)
  | text (value : String)
  deriving DecidableEq

/-- A value as a dictionary key, if it can be one. -/
def Value.hashKey : Value → Option HashKey
  | .none => some .none
  | .str text => some (.text text)
  | other => other.number.map .number

theorem Value.hashKey_isSome (value : Value) : value.hashKey.isSome = value.hashable := by
  cases value with
  | none => rfl
  | bool flag => rfl
  | int number => rfl
  | float number => rfl
  | str text => rfl
  | list items => rfl
  | dict entries => rfl

end ProviderSimulator.Python

namespace ProviderSimulator.Domain.CallLog

open ProviderSimulator.Lib ProviderSimulator.Python

/-- Every row has a method that can be a dictionary key. -/
def Keyed (log : CallLog) : Prop := ∀ row ∈ log.rows, row.method.hashable = true

theorem Keyed.getHistory {log : CallLog} (keyed : log.Keyed) (keep : Row → Bool) {row : Row}
    (member : row ∈ log.getHistory keep) : row.method.hashable = true := by
  unfold CallLog.getHistory at member
  obtain ⟨stored, inRing, rfl⟩ := List.mem_map.mp (List.mem_filter.mp member).1
  obtain ⟨ref, -, found⟩ := List.mem_filterMap.mp inRing
  exact keyed stored (List.mem_of_getElem? found)

end ProviderSimulator.Domain.CallLog

namespace ProviderSimulator.Control

open ProviderSimulator.Lib ProviderSimulator.Python ProviderSimulator.Domain

/-- The functions of the language that the call uses beside the ones of `Host`. -/
structure QueryHost where
  /-- `float(text)`, or nothing where it raises a `ValueError`. -/
  parseFloat : String → Option PyFloat
  /-- `text.lower()`. -/
  lower : String → String
  /-- `repr(text)`. -/
  repr : String → String
  /-- `json.dumps(value, sort_keys=True)`. -/
  dumps : Value → String
  /-- `json.loads` of a text that `_headers_as_json` wrote. -/
  loadsHeaders : String → Value

/-- The query of a call: the first value of each name. -/
abbrev Query := Dict String String

section

variable (host : Host) (language : QueryHost)

/-! ### The filters on a row -/

/-- `_as_int`. -/
def asIntOr (text : String) (default : ℤ) : ℤ := (host.parseInt 10 text).getD default

/-- `_as_float`. -/
def asFloatOr (text : String) (default : PyFloat) : PyFloat := (language.parseFloat text).getD default

/-- `_strict_int`. -/
def strictInt (name text : String) : Except String ℤ :=
  match host.parseInt 10 text with
  | some number => .ok number
  | none => .error (name ++ " must be an integer, got " ++ language.repr text)

/-- The fields of a row that a query compares as they are. -/
inductive EqualField
  | transport
  | method
  | status
  | interface

/-- The name of the field in a query. -/
def EqualField.name : EqualField → String
  | .transport => "transport"
  | .method => "method"
  | .status => "status"
  | .interface => "interface"

/-- `row.get(key) == value`. -/
def EqualField.holds (field : EqualField) (row : Row) (value : String) : Bool :=
  match field with
  | .transport => row.site.transport = value
  | .method => row.method.eqText value
  | .status => row.status = value
  | .interface => row.site.interface = value

/-- The filters of a query that test a row. -/
structure RowFilter where
  equals : List (EqualField × String)
  wantedId : Option String
  wantedHash : Option String
  wantedLen : Option ℤ
  low : Option PyFloat
  high : Option PyFloat
  headers : List (String × String)

/-- Does the query hold no such filter? -/
def RowFilter.isEmpty (filter : RowFilter) : Bool :=
  filter.equals.isEmpty && filter.wantedId.isNone && filter.wantedHash.isNone && filter.wantedLen.isNone &&
    filter.low.isNone && filter.high.isNone && filter.headers.isEmpty

/-- The header filters of a query: a name after `lava_header_`, and a value. -/
def headerFilters (query : Query) : List (String × String) :=
  (query.filter fun entry => "lava_header_".toList.isPrefixOf entry.1.toList).map fun entry =>
    (language.lower (String.ofList (entry.1.toList.drop "lava_header_".length)), entry.2)

/-- `_history_row_filter`. -/
def historyRowFilter (query : Query) : Except String (Option RowFilter) := do
  let wantedLen ←
    match query.get "body_len" with
    | some text => do pure (some (← strictInt host language "body_len" text))
    | none => pure none
  let filter : RowFilter := {
    equals := [.transport, .method, .status, .interface].filterMap fun field : EqualField =>
      (query.get field.name).map fun value => (field, value)
    wantedId := query.get "request_id"
    wantedHash := (query.get "body_sha256").map language.lower
    wantedLen
    low := (query.get "from").map fun text => asFloatOr language text .negInf
    high := (query.get "to").map fun text => asFloatOr language text .posInf
    headers := headerFilters language query }
  pure (if filter.isEmpty then none else some filter)

/-- `matches`. A bound that is NaN keeps no row. -/
def RowFilter.matches (filter : RowFilter) (row : Row) : Bool :=
  (filter.equals.all fun wanted => wanted.1.holds row wanted.2) &&
  (filter.wantedId.all fun wanted => host.text row.requestId = wanted) &&
  (filter.wantedHash.all fun wanted => row.bodySha256 = some wanted) &&
  (filter.wantedLen.all fun wanted => row.bodyLen.any fun length => (length : ℤ) = wanted) &&
  (filter.low.all fun low => low.lessEq (.finite row.ts)) &&
  (filter.high.all fun high => PyFloat.lessEq (.finite row.ts) high) &&
  filter.headers.all fun wanted => row.lavaHeaders.any fun header =>
    language.lower header.1 = wanted.1 && header.2 = wanted.2

/-- `where is None or where(row)`. -/
def keeps (filter : Option RowFilter) (row : Row) : Bool := filter.all fun filter => filter.matches host language row

/-! ### Groups -/

/-- A request id that can be a dictionary key. -/
inductive RequestIdKey
  | plain (key : HashKey)
  /-- The tuple `("json", text)`. -/
  | json (text : String)
  deriving DecidableEq

/-- `_request_id_as_key`. -/
def requestIdAsKey (requestId : Value) : RequestIdKey :=
  match requestId.hashKey with
  | some key => .plain key
  | none => .json (language.dumps requestId)

/-- The key of a group: the request id and the method. -/
abbrev GroupKey := RequestIdKey × HashKey

/-- `(_request_id_as_key(request_id), method)`, as the key of a dictionary. -/
def groupKey (row : Row) : Except PyError GroupKey :=
  match row.method.hashKey with
  | some method => .ok (requestIdAsKey language row.requestId, method)
  | none => .error .typeError

/-- `_CORRELATION_WINDOW_S`. -/
def correlationWindow : ℚ := 1 / 20

/-- A row with its `call_order` and its `correlation_group`. -/
abbrev PlacedRow := Timeline.Placed Row

/-- One turn of the loop over the rows. -/
def correlateRow (state : Timeline.State Row GroupKey) (row : Row) : Except PyError (Timeline.State Row GroupKey) := do
  let key ← groupKey language row
  pure (Timeline.place (fun _ => key) Row.ts correlationWindow state row)

/-- The loop. -/
def correlateRows (rows : List Row) : Except PyError (List PlacedRow) := do
  let state ← rows.foldlM (correlateRow language) ⟨[], 0, []⟩
  pure state.placed

/-! ### The call -/

/-- `rows[-count:]`. -/
def tailOf {A : Type} (rows : List A) (count : ℤ) : List A :=
  if 0 < count then rows.drop (rows.length - count.toNat) else []

/-- The cut of `last`. -/
def cutLast (query : Query) (rows : List PlacedRow) : List PlacedRow :=
  match query.get "last" with
  | some text => tailOf rows (asIntOr host text rows.length)
  | none => rows

/-- The cut of `max`, or nothing where the number is refused. -/
def cutMax (query : Query) (rows : List PlacedRow) : Option (List PlacedRow) :=
  match query.get "max" with
  | some text => if asIntOr host text (-1) < 0 then none else some (tailOf rows (asIntOr host text (-1)))
  | none => some rows

/-- A row of the answer: its headers are decoded after the cut. -/
structure HistoryEntry where
  placed : PlacedRow
  headers : Value

/-- `decode_row_headers`. -/
def decodeRowHeaders (placed : PlacedRow) : HistoryEntry := ⟨placed, language.loadsHeaders placed.item.headersJson⟩

/-- The answer: 400 with an error, or 200 with a count and the rows. -/
inductive HistoryAnswer
  | refused (error : String)
  | ok (count : ℕ) (history : List HistoryEntry)

/-- The providers that `pool` and `pid` pick. -/
def pickedProviders (registry : Registry) (query : Query) : List Provider :=
  registry.allProviders.filter fun provider =>
    ((query.get "pool").all fun pool => provider.key.pool = pool) && (query.get "pid").all fun pid => provider.key.pid = pid

variable (registry : Registry) (logs : ProviderKey → CallLog)

/-- The rows that the filters keep, provider by provider. -/
def matchingRows (query : Query) (filter : Option RowFilter) : List Row :=
  (pickedProviders registry query).flatMap fun provider => (logs provider.key).getHistory (keeps host language filter)

/-- `get_history`. -/
def getHistory (query : Query) : Except PyError HistoryAnswer :=
  match historyRowFilter host language query with
  | .error text => .ok (.refused text)
  | .ok filter => do
      let rows := Timeline.byTime Row.ts (matchingRows host language registry logs query filter)
      let placed ← correlateRows language rows
      match cutMax host query (cutLast host query placed) with
      | none => pure (.refused "max must be a non-negative integer")
      | some kept => pure (.ok kept.length (kept.map (decodeRowHeaders language)))

/-! ### The timeline of the rows -/

/-- The key of a row whose method can be one. -/
def keyOf (row : Row) : GroupKey := (requestIdAsKey language row.requestId, row.method.hashKey.getD .none)

theorem groupKey_eq {row : Row} (hashable : row.method.hashable = true) :
    groupKey language row = .ok (keyOf language row) := by
  rw [← Value.hashKey_isSome] at hashable
  obtain ⟨method, found⟩ := Option.isSome_iff_exists.mp hashable
  unfold groupKey keyOf
  rw [found]
  rfl

theorem correlateRow_eq {row : Row} (hashable : row.method.hashable = true) (state : Timeline.State Row GroupKey) :
    correlateRow language state row =
      .ok (Timeline.place (keyOf language) Row.ts correlationWindow state row) := by
  unfold correlateRow
  rw [groupKey_eq language hashable]
  rfl

theorem foldlM_correlateRow {rows : List Row} (hashable : ∀ row ∈ rows, row.method.hashable = true)
    (state : Timeline.State Row GroupKey) :
    rows.foldlM (correlateRow language) state =
      .ok (rows.foldl (Timeline.place (keyOf language) Row.ts correlationWindow) state) := by
  induction rows generalizing state with
  | nil => rfl
  | cons row rest ih =>
      rw [List.foldlM_cons, correlateRow_eq language (hashable row List.mem_cons_self), ok_bind]
      exact ih (fun later member => hashable later (List.mem_cons_of_mem _ member)) _

/-- **The loop makes the timeline.** -/
theorem correlateRows_eq {rows : List Row} (hashable : ∀ row ∈ rows, row.method.hashable = true) :
    correlateRows language rows = .ok (Timeline.correlate (keyOf language) Row.ts correlationWindow rows) := by
  unfold correlateRows
  rw [foldlM_correlateRow language hashable]
  rfl

/-- **The timeline of some rows.** -/
structure Correlated (rows : List Row) (placed : List PlacedRow) : Prop where
  perm : (placed.map Timeline.Placed.item).Perm rows
  sorted : (placed.map Timeline.Placed.item).Pairwise fun one other => one.ts ≤ other.ts
  /-- Rows of one time keep their order. -/
  stable : ∀ moment, (placed.map Timeline.Placed.item).filter (fun row => row.ts = moment) =
    rows.filter fun row => row.ts = moment
  orders : placed.map Timeline.Placed.order = List.range' 1 rows.length
  /-- Two rows are in one group if and only if they have one key and neither lies more than the window after the first
  row of the group. -/
  together : placed.Pairwise fun one other =>
    one.group = other.group ↔ keyOf language one.item = keyOf language other.item ∧
      ∀ first, Timeline.firstOf placed one.group = some first →
        one.item.ts - first.item.ts ≤ correlationWindow ∧ other.item.ts - first.item.ts ≤ correlationWindow
  /-- A row starts a group if and only if it is the first one of its key, or lies more than the window after the first
  row of the current group of the key. -/
  starts : ∀ before found after, placed = before ++ found :: after →
    (found.group ∉ before.map Timeline.Placed.group ↔
      ∀ last, Timeline.lastOf (keyOf language) before (keyOf language found.item) = some last →
        ∀ first, Timeline.firstOf before last.group = some first →
          correlationWindow < found.item.ts - first.item.ts)
  /-- The groups are numbered from one on in the order of their first rows. -/
  numbers : ∃ count, (placed.map Timeline.Placed.group).eraseDups = List.range' 1 count

theorem correlated_byTime (rows : List Row) :
    Correlated language rows
      (Timeline.correlate (keyOf language) Row.ts correlationWindow (Timeline.byTime Row.ts rows)) := by
  have positive : 0 ≤ correlationWindow := by
    unfold correlationWindow
    norm_num
  have sorted := Timeline.byTime_sorted Row.ts rows
  have items := Timeline.items_correlate (keyOf language) Row.ts correlationWindow (Timeline.byTime Row.ts rows)
  refine ⟨?_, ?_, ?_, ?_, ?_, ?_, ?_⟩
  · rw [items]
    exact Timeline.byTime_perm Row.ts rows
  · rw [items]
    exact sorted
  · intro moment
    rw [items]
    exact Timeline.byTime_filter Row.ts rows moment
  · rw [Timeline.orders_correlate _ _ _ positive, (Timeline.byTime_perm Row.ts rows).length_eq]
  · exact Timeline.same_group_iff _ _ _ positive sorted
  · intro before found after split
    exact Timeline.starts_iff _ _ _ positive split
  · exact Timeline.eraseDups_groups _ _ _ positive _

/-! ### The cuts -/

theorem tailOf_suffix {A : Type} (rows : List A) (count : ℤ) : tailOf rows count <:+ rows := by
  unfold tailOf
  split
  · exact List.drop_suffix _ _
  · exact List.nil_suffix

theorem cutLast_suffix (query : Query) (rows : List PlacedRow) : cutLast host query rows <:+ rows := by
  unfold cutLast
  split
  · exact tailOf_suffix _ _
  · exact List.suffix_rfl

/-- The length of a body that a query names is no number. -/
def BadLength (query : Query) : Prop := ∃ text, query.get "body_len" = some text ∧ host.parseInt 10 text = none

/-- The `max` of a query is no number, or a negative one. -/
def BadMax (query : Query) : Prop :=
  ∃ text, query.get "max" = some text ∧ ∀ number, host.parseInt 10 text = some number → number < 0

theorem asIntOr_neg_iff (text : String) :
    asIntOr host text (-1) < 0 ↔ ∀ number, host.parseInt 10 text = some number → number < 0 := by
  unfold asIntOr
  cases host.parseInt 10 text with
  | none => simp
  | some number => simp

/-- A cut that is not refused keeps the end of the rows. -/
theorem cutMax_cases (query : Query) (rows : List PlacedRow) :
    (BadMax host query ∧ cutMax host query rows = none) ∨
      (¬ BadMax host query ∧ ∃ kept, kept <:+ rows ∧ cutMax host query rows = some kept) := by
  unfold cutMax BadMax
  cases is : query.get "max" with
  | none =>
      refine .inr ⟨?_, rows, List.suffix_rfl, rfl⟩
      rintro ⟨text, found, -⟩
      cases found
  | some text =>
      by_cases negative : asIntOr host text (-1) < 0
      · exact .inl ⟨⟨text, rfl, (asIntOr_neg_iff host text).mp negative⟩, if_pos negative⟩
      · refine .inr ⟨?_, _, tailOf_suffix _ _, if_neg negative⟩
        rintro ⟨other, found, below⟩
        cases found
        exact negative ((asIntOr_neg_iff host text).mpr below)

/-- The query without its cuts. -/
def uncut (query : Query) : Query := query.filter fun entry => entry.1 ≠ "last" ∧ entry.1 ≠ "max"

theorem get_uncut (query : Query) (name : String) :
    (uncut query).get name = if name = "last" ∨ name = "max" then none else query.get name := by
  induction query with
  | nil => simp [uncut]
  | cons entry rest ih =>
      obtain ⟨key, value⟩ := entry
      unfold uncut at ih ⊢
      rw [List.filter_cons]
      by_cases cut : key = "last" ∨ key = "max"
      · rw [if_neg (by simpa [imp_iff_not_or] using cut), ih, Dict.get_cons]
        by_cases same : key = name
        · subst same
          rw [if_pos cut, if_pos cut]
        · rw [if_neg same]
      · rw [if_pos (by simpa [not_or] using cut), Dict.get_cons, Dict.get_cons, ih]
        by_cases same : key = name
        · subst same
          rw [if_pos rfl, if_neg cut, if_pos rfl]
        · rw [if_neg same, if_neg same]

theorem headerFilters_uncut (query : Query) : headerFilters language (uncut query) = headerFilters language query := by
  have last : "lava_header_".toList.isPrefixOf "last".toList = false := by decide
  have max : "lava_header_".toList.isPrefixOf "max".toList = false := by decide
  unfold headerFilters uncut
  rw [List.filter_filter]
  congr 1
  refine List.filter_congr fun entry _ => ?_
  by_cases first : entry.1 = "last"
  · rw [first, last, Bool.false_and]
  · by_cases second : entry.1 = "max"
    · rw [second, max, Bool.false_and]
    · simp [first, second]

/-- The filters on a row do not read the cuts. -/
theorem historyRowFilter_uncut (query : Query) :
    historyRowFilter host language (uncut query) = historyRowFilter host language query := by
  have fields : ∀ field : EqualField, (uncut query).get field.name = query.get field.name := by
    intro field
    cases field with
    | transport => exact get_uncut query _
    | method => exact get_uncut query _
    | status => exact get_uncut query _
    | interface => exact get_uncut query _
  unfold historyRowFilter
  simp [headerFilters_uncut, fields, get_uncut]

theorem pickedProviders_uncut (query : Query) : pickedProviders registry (uncut query) = pickedProviders registry query := by
  unfold pickedProviders
  simp [get_uncut]

theorem matchingRows_uncut (query : Query) (filter : Option RowFilter) :
    matchingRows host language registry logs (uncut query) filter =
      matchingRows host language registry logs query filter := by
  unfold matchingRows
  rw [pickedProviders_uncut]

/-- The filters of a query are refused if and only if the length is. -/
theorem historyRowFilter_cases (query : Query) :
    (BadLength host query ∧ ∃ text, historyRowFilter host language query = .error text) ∨
      (¬ BadLength host query ∧ ∃ filter, historyRowFilter host language query = .ok filter) := by
  unfold historyRowFilter BadLength strictInt
  cases is : query.get "body_len" with
  | none =>
      refine .inr ⟨?_, _, rfl⟩
      rintro ⟨text, found, -⟩
      cases found
  | some text =>
      cases read : host.parseInt 10 text with
      | none =>
          refine .inl ⟨⟨text, rfl, read⟩, "body_len must be an integer, got " ++ language.repr text, ?_⟩
          simp only [read]
          rfl
      | some number =>
          refine .inr ⟨?_, ?_⟩
          · rintro ⟨other, found, unread⟩
            cases found
            cases read.symm.trans unread
          · simp only [read]
            exact ⟨_, rfl⟩

/-- The timeline before the cuts. -/
def wholeHistory (query : Query) (filter : Option RowFilter) : List PlacedRow :=
  Timeline.correlate (keyOf language) Row.ts correlationWindow
    (Timeline.byTime Row.ts (matchingRows host language registry logs query filter))

section

variable {host language registry logs} {query : Query} {filter : Option RowFilter}
  (keyed : ∀ provider ∈ registry.allProviders, (logs provider.key).Keyed)
  (read : historyRowFilter host language query = .ok filter)

include keyed read

/-- The call whose filters are read: the timeline, and then the cuts. -/
theorem getHistory_eq :
    getHistory host language registry logs query =
      match cutMax host query (cutLast host query (wholeHistory host language registry logs query filter)) with
      | none => .ok (.refused "max must be a non-negative integer")
      | some kept => .ok (.ok kept.length (kept.map (decodeRowHeaders language))) := by
  have hashable : ∀ row ∈ Timeline.byTime Row.ts (matchingRows host language registry logs query filter),
      row.method.hashable = true := by
    intro row member
    have matching := (Timeline.byTime_perm _ _).mem_iff.mp member
    obtain ⟨provider, picked, inLog⟩ := List.mem_flatMap.mp matching
    exact (keyed provider (List.mem_filter.mp picked).1).getHistory _ inLog
  unfold getHistory
  rw [read]
  dsimp only
  rw [correlateRows_eq language hashable, ok_bind]
  rfl

theorem getHistory_uncut_eq :
    getHistory host language registry logs (uncut query) =
      .ok (.ok (wholeHistory host language registry logs query filter).length
        ((wholeHistory host language registry logs query filter).map (decodeRowHeaders language))) := by
  have last : (uncut query).get "last" = none := get_uncut query _
  have max : (uncut query).get "max" = none := get_uncut query _
  rw [getHistory_eq keyed ((historyRowFilter_uncut host language query).trans read)]
  unfold cutMax cutLast
  rw [last, max]
  unfold wholeHistory
  rw [matchingRows_uncut]

theorem getHistory_badMax (bad : BadMax host query) :
    getHistory host language registry logs query = .ok (.refused "max must be a non-negative integer") := by
  rw [getHistory_eq keyed read]
  rcases cutMax_cases host query (cutLast host query (wholeHistory host language registry logs query filter)) with
    ⟨-, refused⟩ | ⟨good, -⟩
  · rw [refused]
  · exact absurd bad good

theorem getHistory_suffix (good : ¬ BadMax host query) :
    ∃ kept, kept <:+ (wholeHistory host language registry logs query filter).map (decodeRowHeaders language) ∧
      getHistory host language registry logs query = .ok (.ok kept.length kept) := by
  rw [getHistory_eq keyed read]
  rcases cutMax_cases host query (cutLast host query (wholeHistory host language registry logs query filter)) with
    ⟨bad, -⟩ | ⟨-, kept, ends, cut⟩
  · exact absurd bad good
  · refine ⟨kept.map (decodeRowHeaders language), (ends.trans (cutLast_suffix host query _)).map _, ?_⟩
    rw [cut, List.length_map]

end

/-- What a query with a readable length answers: `whole` is the timeline of the matching rows, and `max` and `last` keep
an end of it. -/
structure Answers (query : Query) (filter : Option RowFilter) (whole : List HistoryEntry) : Prop where
  filters : historyRowFilter host language query = .ok filter
  uncut : getHistory host language registry logs (uncut query) = .ok (.ok whole.length whole)
  correlated :
    Correlated language (matchingRows host language registry logs query filter) (whole.map HistoryEntry.placed)
  refused : BadMax host query →
    getHistory host language registry logs query = .ok (.refused "max must be a non-negative integer")
  cut : ¬ BadMax host query →
    ∃ kept, kept <:+ whole ∧ getHistory host language registry logs query = .ok (.ok kept.length kept)

/-- A query with a readable length has its answer wherever each log is keyed. -/
theorem answers_of_keyed (keyed : ∀ provider ∈ registry.allProviders, (logs provider.key).Keyed) {query : Query}
    (good : ¬ BadLength host query) : ∃ filter whole, Answers host language registry logs query filter whole := by
  rcases historyRowFilter_cases host language query with ⟨bad, -⟩ | ⟨-, filter, read⟩
  · exact absurd bad good
  · refine ⟨filter, (wholeHistory host language registry logs query filter).map (decodeRowHeaders language),
      { filters := read, uncut := ?_, correlated := ?_, refused := getHistory_badMax keyed read,
        cut := getHistory_suffix keyed read }⟩
    · rw [getHistory_uncut_eq keyed read, List.length_map]
    · rw [List.map_map]
      have same : HistoryEntry.placed ∘ decodeRowHeaders language = id := rfl
      rw [same, List.map_id]
      exact correlated_byTime language _

theorem getHistory_badLength {query : Query} (bad : BadLength host query) :
    ∃ text, getHistory host language registry logs query = .ok (.refused text) := by
  rcases historyRowFilter_cases host language query with ⟨-, text, refused⟩ | ⟨good, -⟩
  · refine ⟨text, ?_⟩
    unfold getHistory
    rw [refused]
  · exact absurd bad good

/-- **The answer of `get_history`.** A length that is no number is refused. Every other query without cuts answers the
matching rows as their timeline. A `max` that is no number, or a negative one, is refused; every other cut answers the
end of that timeline, with the places and the groups that the rows have in it. -/
theorem history_correlated (keyed : ∀ provider ∈ registry.allProviders, (logs provider.key).Keyed) (query : Query) :
    (BadLength host query → ∃ text, getHistory host language registry logs query = .ok (.refused text)) ∧
    (¬ BadLength host query → ∃ filter whole, historyRowFilter host language query = .ok filter ∧
      getHistory host language registry logs (uncut query) = .ok (.ok whole.length whole) ∧
      Correlated language (matchingRows host language registry logs query filter) (whole.map HistoryEntry.placed) ∧
      (BadMax host query →
        getHistory host language registry logs query = .ok (.refused "max must be a non-negative integer")) ∧
      (¬ BadMax host query → ∃ kept, kept <:+ whole ∧
        getHistory host language registry logs query = .ok (.ok kept.length kept))) := by
  refine ⟨fun bad => getHistory_badLength host language registry logs bad, fun good => ?_⟩
  obtain ⟨filter, whole, answers⟩ := answers_of_keyed host language registry logs keyed good
  exact ⟨filter, whole, answers.filters, answers.uncut, answers.correlated, answers.refused, answers.cut⟩

end

/-! ### Three calls of one request -/

/-- A language where only texts of plain ASCII come. -/
def plainLanguage : QueryHost where
  parseFloat _ := none
  lower := String.toLower
  repr text := "'" ++ text ++ "'"
  dumps _ := "null"
  loadsHeaders _ := .dict []

/-- One row of the request with the id 1. -/
def callAt (ts : ℚ) (port : ℕ) : Row where
  ts := ts
  time := "2025-01-01 00:00:00.000 UTC"
  requestId := .int 1
  method := .str "eth_call"
  status := "success"
  latencyMs := .int 0
  lavaHeaders := []
  deadlineRemainingMs := .none
  grpcStatus := none
  bodyLen := none
  bodySha256 := none
  path := none
  pool := "eth-sim"
  pid := "1"
  name := "eth-sim:1"
  site := ⟨"jsonrpc", "http", port⟩
  headersJson := "\x7b\x7d"
  resetGen := 0

/-- A log with three rows: the second one is near the first one, and the third one is not. -/
def fannedOut : CallLog :=
  { CallLog.new "eth-sim" "1" "eth-sim:1" 1000 with
    rows := [callAt 0 8545, callAt (1 / 25) 8546, callAt (1 / 10) 8545], history := [0, 1, 2] }

theorem oneRegistry_plain :
    ∀ name ∈ Dict.keys [("eth-sim", (⟨.eth, [("1", [])]⟩ : Pool))], ':' ∉ name.toList := by decide

/-- A registry with one provider. -/
def oneRegistry : Registry := ⟨[("eth-sim", ⟨.eth, [("1", [])]⟩)], oneRegistry_plain⟩

/-- Its log. -/
def fannedLogs (_ : ProviderKey) : CallLog := fannedOut

theorem fannedOut_keyed : fannedOut.Keyed := by
  intro row member
  simp only [fannedOut, List.mem_cons, List.not_mem_nil, or_false] at member
  rcases member with rfl | rfl | rfl <;> rfl

/-- The last two of three calls. -/
theorem history_correlated_three :
    ¬ BadLength asciiHost [("last", "2")] ∧ ∃ whole, whole.length = 3 ∧
      getHistory asciiHost plainLanguage oneRegistry fannedLogs [] = .ok (.ok whole.length whole) ∧
      ∃ kept, kept <:+ whole ∧
        getHistory asciiHost plainLanguage oneRegistry fannedLogs [("last", "2")] =
          .ok (.ok kept.length kept) := by
  have goodLength : ¬ BadLength asciiHost [("last", "2")] := by
    rintro ⟨text, found, -⟩
    cases found
  have goodMax : ¬ BadMax asciiHost [("last", "2")] := by
    rintro ⟨text, found, -⟩
    cases found
  obtain ⟨filter, whole, read, answered, correlated, -, cut⟩ :=
    (history_correlated asciiHost plainLanguage oneRegistry fannedLogs (fun _ _ => fannedOut_keyed)
      [("last", "2")]).2 goodLength
  cases read
  refine ⟨goodLength, whole, ?_, answered, cut goodMax⟩
  have count := correlated.perm.length_eq
  rw [List.length_map, List.length_map] at count
  exact count

/-- **A negative `max` is refused**: the call answers an error and no rows. -/
theorem negative_max_refused :
    (∃ whole, getHistory asciiHost plainLanguage oneRegistry fannedLogs [] = .ok (.ok whole.length whole)) ∧
      ¬ ∃ kept, getHistory asciiHost plainLanguage oneRegistry fannedLogs [("max", "-1")] =
        .ok (.ok kept.length kept) := by
  have keyed : ∀ provider ∈ oneRegistry.allProviders, (fannedLogs provider.key).Keyed := fun _ _ => fannedOut_keyed
  have read : historyRowFilter asciiHost plainLanguage [("max", "-1")] = .ok none := rfl
  have bad : BadMax asciiHost [("max", "-1")] := by
    refine ⟨"-1", rfl, fun number parsed => ?_⟩
    have minus : asciiHost.parseInt 10 "-1" = some (-1) := by decide +kernel
    rw [minus] at parsed
    cases parsed
    decide
  constructor
  · have answered := getHistory_uncut_eq keyed read
    rw [← List.length_map (decodeRowHeaders plainLanguage)] at answered
    exact ⟨_, answered⟩
  · rintro ⟨kept, answered⟩
    rw [getHistory_badMax keyed read bad] at answered
    cases answered

end ProviderSimulator.Control
