import Mathlib.Data.List.TakeWhile
import Quidz.Log
import Quidz.Proofs.Futile

/-! What is written to a delivery log is what is read from it. Of `json` it is used that a
text reads back as the value it was written from, with its keys sorted, and that it is
printable ASCII, so that the lines of the file are the records. -/

namespace Quidz

mutual
/-- The value with its mappings as `sort_keys=True` writes them. -/
def Json.sorted : Json → Json
  | .list items => .list (Json.sortedItems items)
  | .dict entries => .dict ((Json.sortedEntries entries).insertionSort fun first second => first.1 ≤ second.1)
  | value => value

def Json.sortedItems : List Json → List Json
  | [] => []
  | item :: rest => item.sorted :: Json.sortedItems rest

def Json.sortedEntries : List (Str × Json) → List (Str × Json)
  | [] => []
  | (key, value) :: rest => (key, value.sorted) :: Json.sortedEntries rest
end

namespace Proofs

variable {T R : Type} (rt : Runtime T R)

section Sorted

theorem lookup_iff {entries : Mapping} (distinct : (entries.map Prod.fst).Nodup) {key : Str} {value : Json} :
    entries.lookup key = some value ↔ (key, value) ∈ entries := by
  induction entries with
  | nil => simp
  | cons entry rest ih =>
    obtain ⟨own, held⟩ := entry
    rw [List.map_cons, List.nodup_cons] at distinct
    rw [List.lookup_cons, List.mem_cons, Prod.mk.injEq]
    by_cases same : key = own
    · subst same
      have other : (key, value) ∉ rest := by
        intro member
        have listed : key ∈ rest.map Prod.fst := List.mem_map_of_mem (f := Prod.fst) member
        exact distinct.1 listed
      simp [other, eq_comm]
    · simp only [beq_false_of_ne same, same, false_and, false_or]
      exact ih distinct.2

theorem sortedEntries_eq (entries : Mapping) : Json.sortedEntries entries = entries.map fun entry => (entry.1, entry.2.sorted) := by
  induction entries with
  | nil => rfl
  | cons entry rest ih => rw [Json.sortedEntries, ih, List.map_cons]

/-- Sorting the keys leaves what is found under them. -/
theorem sorted_lookup {entries : Mapping} (distinct : (entries.map Prod.fst).Nodup) : ∃ read, (Json.dict entries).sorted = .dict read ∧
    read.length = entries.length ∧ ∀ key value, entries.lookup key = some value → read.lookup key = some value.sorted := by
  have same : ((Json.sortedEntries entries).insertionSort fun first second => first.1 ≤ second.1).Perm
      (entries.map fun entry => (entry.1, entry.2.sorted)) := by
    rw [← sortedEntries_eq]
    exact List.perm_insertionSort _ _
  refine ⟨_, by rw [Json.sorted], by rw [same.length_eq, List.length_map], fun key value found => ?_⟩
  have keys : (((Json.sortedEntries entries).insertionSort fun first second => first.1 ≤ second.1).map Prod.fst).Nodup := by
    rw [(same.map Prod.fst).nodup_iff, List.map_map]
    exact distinct
  rw [lookup_iff keys, same.mem_iff]
  exact List.mem_map_of_mem ((lookup_iff distinct).mp found)

end Sorted

section Lines

theorem splitlinesFrom_line {text : Str} (plain : ∀ c ∈ text, Str.isLineBreak c = false) (rest : Str) :
    Str.splitlinesFrom false (text ++ codePoint '\n' :: rest) = text :: Str.splitlinesFrom false rest := by
  induction text with
  | nil =>
    rw [List.nil_append, Str.splitlinesFrom]
    rfl
  | cons c text ih =>
    rw [List.forall_mem_cons] at plain
    rw [List.cons_append, Str.splitlinesFrom, ih plain.2]
    simp only [Bool.false_and, Bool.false_eq_true, ↓reduceIte, plain.1]

/-- Lines that were joined are split again. -/
theorem splitlines_join {lines : List Str} (some_ : lines ≠ []) (plain : ∀ line ∈ lines, ∀ c ∈ line, Str.isLineBreak c = false) :
    (Str.join (str "\n") lines ++ str "\n").splitlines = lines := by
  have feed : str "\n" = [codePoint '\n'] := rfl
  rw [Str.splitlines, Str.join, feed]
  induction lines with
  | nil => exact absurd rfl some_
  | cons line lines ih =>
    rw [List.forall_mem_cons] at plain
    cases lines with
    | nil =>
      rw [List.intercalate_singleton, splitlinesFrom_line plain.1, Str.splitlinesFrom]
    | cons next lines =>
      rw [List.intercalate_cons_cons, List.append_assoc, List.append_assoc, List.singleton_append, splitlinesFrom_line plain.1,
        ih (List.cons_ne_nil _ _) plain.2]

theorem strip_ne_nil {isspace : CodePoint → Bool} {text : Str} {c : CodePoint} (member : c ∈ text) (letter : isspace c = false) :
    Str.strip isspace text ≠ [] := by
  intro blank
  rw [Str.strip, List.reverse_eq_nil_iff, List.dropWhile_eq_nil_iff] at blank
  by_cases none : text.dropWhile isspace = []
  · rw [List.dropWhile_eq_nil_iff] at none
    simp [none c member] at letter
  · have first := List.head_dropWhile_not isspace none
    rw [blank _ (List.mem_reverse.mpr (List.head_mem none))] at first
    cases first

end Lines

section Records
variable [Seconds T]

/-- What is relied on of `json.dumps` and `json.loads` for a value that is logged. -/
structure Dumped (value : Json) : Prop where
  reads : rt.loadsText (rt.dumps value) = .ok value.sorted
  printable : ∀ c ∈ rt.dumps value, 32 ≤ c.val ∧ c.val < 127
  visible : ∃ c ∈ rt.dumps value, c.val ≠ 32

/-- The headers as a JSON value. -/
def headerDict (headers : List (Str × Str)) : Json := .dict (headers.map fun header => (header.1, .str header.2))

/-- What is relied on of `json` and `base64` for the log of a store. -/
structure Legible (db : Db T) : Prop where
  headers : ∀ row ∈ db.deliveries.rows, ∃ headers, rt.loadsText row.headers = .ok (headerDict headers)
  base64 : ∀ row ∈ db.deliveries.rows, rt.b64decode (rt.b64encode row.raw) = some row.raw
  records : ∀ row ∈ db.deliveries.rows, ∀ record, deliveryRecord rt row = .ok record → Dumped rt record
  terminal : Dumped rt (terminalRecord (terminal db))

/-- The record of a stored delivery whose headers read as these. -/
def recordOf (row : Delivery T) (identity : Str) (headers : List (Str × Str)) : Mapping := [
  (str "kind", .str (str "delivery")),
  (str "provider", .str row.provider.value),
  (str "identity", .str identity),
  (str "headers", headerDict headers),
  (str "raw_b64", .str (rt.b64encode row.raw))]

variable {rt}

omit [Seconds T] in
theorem Dumped.plain {value : Json} (dumped : Dumped rt value) : ∀ c ∈ rt.dumps value, Str.isLineBreak c = false := by
  intro c member
  have range := dumped.printable c member
  simp only [Str.isLineBreak, List.contains_eq_mem, decide_eq_false_iff_not, List.mem_cons, List.not_mem_nil, or_false]
  omega

omit [Seconds T] in
theorem Dumped.shown {value : Json} (dumped : Dumped rt value) : Str.strip rt.isspace (rt.dumps value) ≠ [] := by
  obtain ⟨c, member, visible⟩ := dumped.visible
  have range := dumped.printable c member
  have letter : rt.isspace c = false := by
    have ascii : isascii c = true := by simp only [isascii, decide_eq_true_eq]; omega
    simp only [Runtime.isspace, ascii, ↓reduceIte, Bool.or_eq_false_iff, Bool.and_eq_false_imp, decide_eq_true_eq,
      decide_eq_false_iff_not]
    omega
  exact strip_ne_nil member letter

theorem partition_deliveryId (provider : Provider) (identity : Str) :
    (deliveryId provider identity).partition (codePoint ':') = some (provider.value, identity) := by
  cases provider <;> rfl

omit [Seconds T] in
theorem deliveryRecord_eq {row : Delivery T} {identity : Str} {headers : List (Str × Str)}
    (own : row.deliveryId = deliveryId row.provider identity) (headed : rt.loadsText row.headers = .ok (headerDict headers)) :
    deliveryRecord rt row = .ok (.dict (recordOf rt row identity headers)) := by
  rw [deliveryRecord, own, partition_deliveryId, headed]
  rfl

omit [Seconds T] in
theorem subscript_found {entries : Mapping} {key : Str} {value : Json} (found : entries.lookup key = some value) :
    subscript rt (.dict entries) key = .ok value := by
  simp only [subscript, found, orRaise]

omit [Seconds T] in
theorem mapM_texts {entries : Mapping} (texts : ∀ entry ∈ entries, ∃ text, entry.2 = .str text) :
    ∃ read : List (Str × Str), (entries.mapM fun header => return (header.1, ← asText rt header.2)) = .ok read := by
  induction entries with
  | nil => exact ⟨[], rfl⟩
  | cons entry rest ih =>
    rw [List.forall_mem_cons] at texts
    obtain ⟨text, same⟩ := texts.1
    obtain ⟨read, done⟩ := ih texts.2
    refine ⟨(entry.1, text) :: read, ?_⟩
    rw [List.mapM_cons, same, done]
    rfl

variable (rt) in
omit [Seconds T] in
theorem headers_read (headers : List (Str × Str)) : ∃ entries, (headerDict headers).sorted = .dict entries ∧
    ∃ read : List (Str × Str), (entries.mapM fun header => return (header.1, ← asText rt header.2)) = .ok read := by
  refine ⟨_, by rw [headerDict, Json.sorted], mapM_texts fun entry member => ?_⟩
  rw [(List.perm_insertionSort _ _).mem_iff, sortedEntries_eq, List.mem_map] at member
  obtain ⟨_, listed, rfl⟩ := member
  obtain ⟨header, _, rfl⟩ := List.mem_map.mp listed
  exact ⟨header.2, by simp only [Json.sorted]⟩

omit [Seconds T] in
/-- The record of a delivery is read as that delivery. -/
theorem readRecord_recordOf {row : Delivery T} {identity : Str} {headers : List (Str × Str)}
    (dumped : Dumped rt (.dict (recordOf rt row identity headers))) (base64 : rt.b64decode (rt.b64encode row.raw) = some row.raw) :
    ∃ headers', readRecord rt (rt.dumps (.dict (recordOf rt row identity headers))) =
      .ok (.delivery ⟨row.provider, identity, row.raw, headers'⟩) := by
  have distinct : ((recordOf rt row identity headers).map Prod.fst).Nodup := by
    have keys : (recordOf rt row identity headers).map Prod.fst =
        [str "kind", str "provider", str "identity", str "headers", str "raw_b64"] := rfl
    rw [keys]
    decide
  obtain ⟨read, sorted, _, found⟩ := sorted_lookup distinct
  obtain ⟨entries, headerEntries, texts, readable⟩ := headers_read rt headers
  have kind := found (str "kind") (.str (str "delivery")) rfl
  have provider := found (str "provider") (.str row.provider.value) rfl
  have named := found (str "identity") (.str identity) rfl
  have headed := found (str "headers") (headerDict headers) rfl
  have raw := found (str "raw_b64") (.str (rt.b64encode row.raw)) rfl
  simp only [Json.sorted] at kind provider named raw
  rw [headerEntries] at headed
  refine ⟨texts, ?_⟩
  have delivery : readDelivery rt (.dict read) = .ok ⟨row.provider, identity, row.raw, texts⟩ := by
    have known : Provider.of rt (.str row.provider.value) = .ok row.provider := by cases row.provider <;> rfl
    have decoded : decodeBase64 rt (rt.b64encode row.raw) = .ok row.raw := by rw [decodeBase64, base64, orRaise]
    refine bind_ok.mpr ⟨_, subscript_found provider, bind_ok.mpr ⟨_, known, ?_⟩⟩
    refine bind_ok.mpr ⟨_, subscript_found named, bind_ok.mpr ⟨identity, rfl, ?_⟩⟩
    refine bind_ok.mpr ⟨_, subscript_found raw, bind_ok.mpr ⟨_, rfl, bind_ok.mpr ⟨_, decoded, ?_⟩⟩⟩
    refine bind_ok.mpr ⟨_, subscript_found headed, bind_ok.mpr ⟨_, rfl, bind_ok.mpr ⟨_, readable, rfl⟩⟩⟩
  refine bind_ok.mpr ⟨_, dumped.reads, ?_⟩
  rw [sorted]
  refine bind_ok.mpr ⟨_, subscript_found kind, ?_⟩
  exact bind_ok.mpr ⟨_, delivery, rfl⟩

omit [Seconds T] in
/-- The last record is read as the terminal state it was written from. -/
theorem readRecord_terminal {terminal : List (Str × Status)} (distinct : (terminal.map Prod.fst).Nodup)
    (dumped : Dumped rt (terminalRecord terminal)) : ∃ read,
      readRecord rt (rt.dumps (terminalRecord terminal)) = .ok (.terminal read) ∧ sameTerminal read terminal = true := by
  have keys : ([(str "kind", Json.str (str "terminal")), (str "payments", .dict (payments terminal))].map Prod.fst).Nodup := by
    have literal : [(str "kind", Json.str (str "terminal")), (str "payments", .dict (payments terminal))].map Prod.fst =
        [str "kind", str "payments"] := rfl
    rw [literal]
    decide
  obtain ⟨record, sorted, _, found⟩ := sorted_lookup keys
  have ids : ((payments terminal).map Prod.fst).Nodup := by
    rw [payments, List.map_map]
    exact distinct
  obtain ⟨read, sorted', length, listed⟩ := sorted_lookup ids
  have kind := found (str "kind") (.str (str "terminal")) rfl
  have held := found (str "payments") (.dict (payments terminal)) rfl
  rw [sorted'] at held
  simp only [Json.sorted] at kind
  refine ⟨read, ?_, ?_⟩
  · refine bind_ok.mpr ⟨_, dumped.reads, ?_⟩
    rw [terminalRecord, sorted]
    refine bind_ok.mpr ⟨_, subscript_found kind, ?_⟩
    exact bind_ok.mpr ⟨_, subscript_found held, bind_ok.mpr ⟨_, rfl, rfl⟩⟩
  · rw [sameTerminal, Bool.and_eq_true, decide_eq_true_eq, List.all_eq_true]
    refine ⟨by rw [length, payments, List.length_map], fun entry member => ?_⟩
    have here : (entry.1, Json.str entry.2.value) ∈ payments terminal := List.mem_map_of_mem member
    rw [listed entry.1 _ ((lookup_iff ids).mpr here)]
    simp only [Json.sorted, decide_eq_true_eq]

def posting (received : Received) : Parcel := ⟨deliveryId received.provider received.identity, received.provider, received.raw⟩

omit [Seconds T] in
theorem readLine_ok {path : Str} {read after : List Received × Option Mapping} {value : Json} {n : Nat} {record : LogRecord}
    (dumped : Dumped rt value) (reads : readRecord rt (rt.dumps value) = .ok record)
    (adds : after = match record with
      | .delivery received => (read.1 ++ [received], read.2)
      | .terminal payments => (read.1, some payments)) : readLine rt path read (rt.dumps value, n) = .ok after := by
  rw [readLine, if_neg dumped.shown, reads, adds]
  cases record <;> rfl

omit [Seconds T] in
/-- The records of some stored deliveries are read as these. -/
theorem records_read {db : Db T} (legible : Legible rt db) {rows : List (Delivery T)} (inside : ∀ row ∈ rows, row ∈ db.deliveries.rows)
    (owned : ∀ row ∈ rows, ∃ identity, row.deliveryId = deliveryId row.provider identity) :
    ∃ records received, rows.mapM (deliveryRecord rt) = .ok records ∧ received.map posting = parcels rows ∧
      (∀ record ∈ records, Dumped rt record) ∧ ∀ path n got expected,
        ((records.map rt.dumps).zipIdx n).foldlM (readLine rt path) (got, expected) = .ok (got ++ received, expected) := by
  induction rows with
  | nil => exact ⟨[], [], rfl, rfl, nofun, fun _ _ got _ => by rw [List.append_nil]; rfl⟩
  | cons row rows ih =>
    rw [List.forall_mem_cons] at inside owned
    obtain ⟨records, received, written, posted, dumped, reads⟩ := ih inside.2 owned.2
    obtain ⟨identity, own⟩ := owned.1
    obtain ⟨headers, headed⟩ := legible.headers row inside.1
    have record := deliveryRecord_eq own headed
    have dumped' := legible.records row inside.1 _ record
    obtain ⟨headers', read⟩ := readRecord_recordOf dumped' (legible.base64 row inside.1)
    refine ⟨.dict (recordOf rt row identity headers) :: records, ⟨row.provider, identity, row.raw, headers'⟩ :: received, ?_, ?_, ?_, ?_⟩
    · rw [List.mapM_cons, record, written]
      rfl
    · rw [List.map_cons, posted, posting, ← own]
      rfl
    · exact List.forall_mem_cons.mpr ⟨dumped', dumped⟩
    · intro path n got expected
      rw [List.map_cons, List.zipIdx_cons, List.foldlM_cons, readLine_ok dumped' read rfl]
      refine (reads path (n + 1) _ expected).trans ?_
      rw [List.append_assoc, List.singleton_append]

omit [Seconds T] in
theorem terminal_distinct (db : Db T) : ((terminal db).map Prod.fst).Nodup := by
  have ids : (terminal db).map Prod.fst =
      (db.payments.rows.insertionSort fun first second => first.paymentId ≤ second.paymentId).map PaymentRow.paymentId := by
    rw [terminal, listPayments, List.map_map, List.map_map]
    rfl
  rw [ids, ((List.perm_insertionSort _ _).map _).nodup_iff]
  exact db.payments.unique

/-- A log can be written, and what is read from it are the stored deliveries in order of
receipt and the terminal state. -/
theorem readLog_writeLog {db : Db T} (legible : Legible rt db) (sorted : db.deliveries.rows.Pairwise receivedBefore)
    (owned : ∀ row ∈ db.deliveries.rows, ∃ identity, row.deliveryId = deliveryId row.provider identity)
    (some_ : db.deliveries.rows ≠ []) : ∃ file received payments, writeLog rt db (terminal db) = .ok file ∧
      (∀ path, readLog rt path file = .ok (received, some payments)) ∧ received.map posting = parcels db.deliveries.rows ∧
      sameTerminal payments (terminal db) = true := by
  obtain ⟨records, received, written, posted, dumped, reads⟩ := records_read legible (fun _ member => member) owned
  obtain ⟨payments, last, same⟩ := readRecord_terminal (terminal_distinct db) legible.terminal
  have plain : ∀ line ∈ (records ++ [terminalRecord (terminal db)]).map rt.dumps, ∀ c ∈ line, Str.isLineBreak c = false := by
    intro line member
    obtain ⟨record, listed, rfl⟩ := List.mem_map.mp member
    rw [List.mem_append, List.mem_singleton] at listed
    rcases listed with inside | rfl
    · exact (dumped record inside).plain
    · exact legible.terminal.plain
  have split := splitlines_join (by simp) plain
  have several : received.isEmpty = false := by
    cases received with
    | nil => exact absurd (List.map_eq_nil_iff.mp posted.symm) some_
    | cons => rfl
  refine ⟨Str.join (str "\n") ((records ++ [terminalRecord (terminal db)]).map rt.dumps) ++ str "\n", received, payments, ?_,
    fun path => ?_, posted, same⟩
  · rw [writeLog, sorted.insertionSort_eq, written]
    rfl
  · refine bind_ok.mpr ⟨(received, some payments), ?_, ?_⟩
    · rw [split, List.map_append, List.zipIdx_append, List.foldlM_append, reads, List.nil_append]
      exact bind_ok.mpr ⟨_, rfl, bind_ok.mpr ⟨_, readLine_ok legible.terminal last rfl, rfl⟩⟩
    · simp only [several, Bool.false_eq_true, raiseIf, ↓reduceIte]
      rfl

end Records
end Proofs
end Quidz
