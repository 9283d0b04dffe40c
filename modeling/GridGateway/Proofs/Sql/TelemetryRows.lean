import GridGateway.Proofs.Sql.Readers
import GridGateway.Proofs.Sql.Upserts
import GridGateway.Sql.DerivedObjects

/-!
# Telemetry records in the table

What is written about a fetch is what is read later.  The statements are taken at their word: the columns and the values
come from their texts, the defaults from the script that creates the table, and the value of a column is the one in its
place.  A row of the table is the number of a node and the values of a record (`RecordValues`), which are read by the
names of their columns (`readRecord_row`).  A success inserts a row of these (`row_success`), and so does a failure with
the defaults of the table (`over_defaults_failure`).  The result is put together in `written_records_are_read_back`.
-/

namespace GridGateway.Sql

open GridGateway.Bus Telemetry
open RowReader (bind_of_ok)

/-! ### Rows of the table -/

/-- The values of the columns of a record. -/
structure RecordValues where
  totalCru : Int := 0
  totalSru : Int := 0
  totalHru : Int := 0
  totalMru : Int := 0
  usedCru : Int := 0
  usedSru : Int := 0
  usedHru : Int := 0
  usedMru : Int := 0
  usedIpv4u : Int := 0
  status : String := "down"
  hypervisor : String := ""
  zosVersion : String := ""
  retries : Int := 0
  lastError : Option String := none
  lastFetchAttempt : Option Int := none
  lastFetchSuccess : Option Int := none

/-- The columns of a record, with their values. -/
def RecordValues.row (v : RecordValues) : Row :=
  [("total_cru", .int v.totalCru), ("total_sru", .int v.totalSru), ("total_hru", .int v.totalHru),
    ("total_mru", .int v.totalMru), ("used_cru", .int v.usedCru), ("used_sru", .int v.usedSru),
    ("used_hru", .int v.usedHru), ("used_mru", .int v.usedMru), ("used_ipv4u", .int v.usedIpv4u),
    ("status", .str v.status), ("hypervisor", .str v.hypervisor), ("zos_version", .str v.zosVersion),
    ("retries", .int v.retries), ("last_error", v.lastError.elim .null .str),
    ("last_fetch_attempt", v.lastFetchAttempt.elim .null .int),
    ("last_fetch_success", v.lastFetchSuccess.elim .null .int)]

@[simp] theorem Row.value?_nil (name : String) : Row.value? name [] = none := rfl

@[simp] theorem Row.value?_cons (name column : String) (v : Json) (row : Row) :
    Row.value? name ((column, v) :: row) = if column = name then some v else row.value? name := by
  unfold Row.value?
  rw [List.find?_cons]
  by_cases h : column = name <;> simp [h]

/-- Different columns have the values that stand beside them. -/
private theorem Row.value?_of_mem {row : Row} (h : (row.map (·.1)).Nodup) {p : String × Json} (hp : p ∈ row) :
    row.value? p.1 = some p.2 := by
  induction row with
  | nil => cases hp
  | cons q row ih =>
    obtain ⟨column, v⟩ := q
    rw [List.map_cons, List.nodup_cons] at h
    rw [Row.value?_cons]
    rcases List.mem_cons.1 hp with rfl | hp
    · rw [if_pos rfl]
    · have hname : p.1 ∈ row.map (·.1) := List.mem_map_of_mem hp
      have hne : column ≠ p.1 := fun he => h.1 (by rwa [he])
      rw [if_neg hne, ih h.2 hp]

/-- All columns of a row are the row. -/
private theorem Row.select_self {row : Row} (h : (row.map (·.1)).Nodup) : row.select (row.map (·.1)) = row := by
  rw [Row.select, List.map_map]
  refine (List.map_congr_left fun p hp => ?_).trans (List.map_id _)
  simp only [Function.comp_apply, Row.value?_of_mem h hp, Option.getD_some, id]

private theorem Row.select_cons_of_notMem {columns : List String} {column : String} (h : column ∉ columns) (v : Json)
    (row : Row) : Row.select columns ((column, v) :: row) = row.select columns := by
  refine List.map_congr_left fun name hname => ?_
  have hne : column ≠ name := fun he => h (he ▸ hname)
  rw [Row.value?_cons, if_neg hne]

/-- A column that may be without a value. -/
private theorem optional_text {row : Row} {name : String} {s : Option String}
    (h : row.value? name = some (s.elim .null .str)) : Row.optional name Row.text? row = .ok s :=
  Row.column_of_value? h (by cases s <;> rfl)

private theorem optional_int {row : Row} {name : String} {n : Option Int}
    (h : row.value? name = some (n.elim .null .int)) : Row.optional name Row.int? row = .ok n :=
  Row.column_of_value? h (by cases n <;> rfl)

private theorem int_of_value? {row : Row} {name : String} {n : Int} (h : row.value? name = some (.int n)) :
    Row.int name row = .ok n := Row.column_of_value? h rfl

private theorem text_of_value? {row : Row} {name : String} {s : String} (h : row.value? name = some (.str s)) :
    Row.text name row = .ok s := Row.column_of_value? h rfl

private theorem readCapacity_of_values {row : Row} {kind : String} {cru sru hru mru : Int}
    (hcru : row.value? (kind ++ "_cru") = some (.int cru)) (hsru : row.value? (kind ++ "_sru") = some (.int sru))
    (hhru : row.value? (kind ++ "_hru") = some (.int hru)) (hmru : row.value? (kind ++ "_mru") = some (.int mru)) :
    readCapacity kind row = .ok ⟨unsigned cru, unsigned sru, unsigned hru, unsigned mru⟩ := by
  unfold readCapacity
  rw [bind_of_ok (int_of_value? hcru), bind_of_ok (int_of_value? hsru), bind_of_ok (int_of_value? hhru),
    bind_of_ok (int_of_value? hmru)]
  rfl

/-- Each column of a record is read by its name. -/
theorem readRecord_row (v : RecordValues) :
    readRecord v.row = .ok
      { report :=
          { total := ⟨unsigned v.totalCru, unsigned v.totalSru, unsigned v.totalHru, unsigned v.totalMru⟩
            used := ⟨unsigned v.usedCru, unsigned v.usedSru, unsigned v.usedHru, unsigned v.usedMru⟩
            usedIpv4u := unsigned v.usedIpv4u
            hypervisor := v.hypervisor
            zosVersion := v.zosVersion }
        status := (Status.ofName? v.status).getD .down
        retries := narrow v.retries
        lastError := v.lastError
        lastFetchAttempt := v.lastFetchAttempt.map unsigned
        lastFetchSuccess := v.lastFetchSuccess.map unsigned } := by
  have htotal : readCapacity "total" v.row =
      .ok ⟨unsigned v.totalCru, unsigned v.totalSru, unsigned v.totalHru, unsigned v.totalMru⟩ := by
    apply readCapacity_of_values <;> simp [RecordValues.row]
  have hused : readCapacity "used" v.row =
      .ok ⟨unsigned v.usedCru, unsigned v.usedSru, unsigned v.usedHru, unsigned v.usedMru⟩ := by
    apply readCapacity_of_values <;> simp [RecordValues.row]
  have hips : Row.int "used_ipv4u" v.row = .ok v.usedIpv4u := int_of_value? (by simp [RecordValues.row])
  have hstatus : Row.text "status" v.row = .ok v.status := text_of_value? (by simp [RecordValues.row])
  have hhypervisor : Row.text "hypervisor" v.row = .ok v.hypervisor := text_of_value? (by simp [RecordValues.row])
  have hversion : Row.text "zos_version" v.row = .ok v.zosVersion := text_of_value? (by simp [RecordValues.row])
  have hretries : Row.int "retries" v.row = .ok v.retries := int_of_value? (by simp [RecordValues.row])
  have herror : Row.optional "last_error" Row.text? v.row = .ok v.lastError :=
    optional_text (by simp [RecordValues.row])
  have hattempt : Row.optional "last_fetch_attempt" Row.int? v.row = .ok v.lastFetchAttempt :=
    optional_int (by simp [RecordValues.row])
  have hsuccess : Row.optional "last_fetch_success" Row.int? v.row = .ok v.lastFetchSuccess :=
    optional_int (by simp [RecordValues.row])
  unfold readRecord
  rw [bind_of_ok htotal, bind_of_ok hused, bind_of_ok hips, bind_of_ok hstatus, bind_of_ok hhypervisor,
    bind_of_ok hversion, bind_of_ok hretries, bind_of_ok herror, bind_of_ok hattempt, bind_of_ok hsuccess]
  rfl

/-- The columns that are read for a record are selected from a row of the table. -/
private theorem select_telemetryColumns (nodeId : Json) (v : RecordValues) :
    Row.select telemetryColumns (("node_id", nodeId) :: v.row) = v.row := by
  have hcolumns : telemetryColumns = v.row.map (·.1) := rfl
  rw [Row.select_cons_of_notMem (by decide), hcolumns]
  exact Row.select_self (hcolumns ▸ (by decide : telemetryColumns.Nodup))

/-- The largest figure of the table caps what does not fit. -/
private theorem unsigned_bigintOf (n : UInt64) : unsigned (bigintOf n) = min n 9223372036854775807 := by
  have hmax : (9223372036854775807 : UInt64).toNat = 9223372036854775807 := rfl
  have hmin : min n 9223372036854775807 = if n ≤ 9223372036854775807 then n else 9223372036854775807 := rfl
  have hnat : (bigintOf n).toNat = (min n 9223372036854775807).toNat := by
    rw [bigintOf, maxBigint, Int.min_def, hmin]
    simp only [UInt64.le_iff_toNat_le, hmax]
    split <;> split <;> omega
  rw [unsigned, hnat, UInt64.ofNat_toNat]

/-! ### What the statements say -/

private theorem names_of_all {ss : List String} (h : ss.all (fun s => isName s.toList) = true) :
    ∀ s ∈ ss, IsName s.toList :=
  fun s hs => .of_isName (List.all_eq_true.1 h s hs)

private theorem updates_of_all {updates : List (String × String)}
    (h : updates.all (fun a => isName a.1.toList && isItem a.2.toList) = true) :
    ∀ a ∈ updates, IsName a.1.toList ∧ IsItem a.2.toList := by
  intro a ha
  have htest := List.all_eq_true.1 h a ha
  rw [Bool.and_eq_true] at htest
  exact ⟨.of_isName htest.1, .of_isItem htest.2⟩

private theorem isName_columns : ∀ column ∈ "node_id" :: telemetryColumns, IsName column.toList :=
  names_of_all (by decide +kernel)

section

variable (nodeId : UInt32) (report : Report) (reason : String) (time : UInt64)

private theorem isReadable_recordSuccess :
    IsReadable telemetryTable "node_id" (successRow nodeId report time) successUpdates where
  table := by decide +kernel
  key := by decide +kernel
  row_ne_nil := List.cons_ne_nil _ _
  columns := fun column hcolumn => (isName_columns column hcolumn).toIsItem
  fixed := by simp [successRow]
  updates_ne_nil := List.cons_ne_nil _ _
  updates := updates_of_all (by decide +kernel)

private theorem isReadable_recordFailure :
    IsReadable telemetryTable "node_id" (failureRow nodeId reason time) failureUpdates where
  table := by decide +kernel
  key := by decide +kernel
  row_ne_nil := List.cons_ne_nil _ _
  columns := fun column hcolumn =>
    have hnames : ∀ s ∈ ["node_id", "status", "retries", "last_error", "last_fetch_attempt"], IsName s.toList :=
      names_of_all (by decide +kernel)
    (hnames column hcolumn).toIsItem
  fixed := by
    intro s hs
    obtain rfl : s = "1" := by simpa [failureRow] using hs
    exact ⟨.of_isItem (by decide +kernel), by decide +kernel⟩
  updates_ne_nil := List.cons_ne_nil _ _
  updates := updates_of_all (by decide +kernel)

/-- The columns that are read for a record. -/
private theorem selected?_telemetryOf : selected? (telemetryOf nodeId).text = some telemetryColumns := by
  have hfrom : " FROM node_telemetry WHERE node_id = ".toList =
      ' ' :: "FROM node_telemetry WHERE node_id = ".toList := by simp
  have htext : (telemetryOf nodeId).text.toList = "SELECT ".toList ++
      (enumeration (telemetryColumns.map String.toList) ++
        ' ' :: ("FROM node_telemetry WHERE node_id = ".toList ++ ['$', '1'])) := by
    rw [Fragment.text, String.toList_ofList, telemetryOf]
    simp only [Fragment.textFrom, String.toList_append, toList_intercalate_comma, hfrom, List.append_assoc,
      List.cons_append]
    rfl
  exact selected?_enumeration htext (fun column hcolumn => isName_columns column (List.mem_cons_of_mem _ hcolumn))
    (List.cons_ne_nil _ _) (by decide +kernel)

set_option maxRecDepth 20000 in
/-- The columns of the table, with the expressions for their defaults. -/
private theorem createdColumns_telemetryTable :
    createdColumns telemetryTable setupScript.toList =
      [("node_id", "NULL"), ("total_cru", "0"), ("total_sru", "0"), ("total_hru", "0"), ("total_mru", "0"),
        ("used_cru", "0"), ("used_sru", "0"), ("used_hru", "0"), ("used_mru", "0"), ("used_ipv4u", "0"),
        ("status", "'down'"), ("hypervisor", "''"), ("zos_version", "''"), ("retries", "0"), ("last_error", "NULL"),
        ("last_fetch_attempt", "NULL"), ("last_fetch_success", "NULL")] := by
  have hscript : setupScript.toList = _ := String.toList_ofList
  rw [hscript]
  decide +kernel

private theorem literal?_null : literal? "NULL".toList = some .null := by
  rw [show "NULL".toList = ['N', 'U', 'L', 'L'] from String.toList_ofList]
  rfl

private theorem literal?_zero : literal? "0".toList = some (.int 0) := by
  rw [show "0".toList = ['0'] from String.toList_ofList]
  rfl

/-- The defaults of the table are those of a record. -/
private theorem ofDefaults_telemetryTable :
    Row.ofDefaults (createdColumns telemetryTable setupScript.toList) =
      ("node_id", .null) :: ({} : RecordValues).row := by
  have hdown : literal? "'down'".toList = some (.str "down") := by
    rw [show "'down'".toList = ['\'', 'd', 'o', 'w', 'n', '\''] from String.toList_ofList]
    rfl
  have hempty : literal? "''".toList = some (.str "") := by
    rw [show "''".toList = ['\'', '\''] from String.toList_ofList]
    rfl
  rw [createdColumns_telemetryTable]
  simp only [Row.ofDefaults, List.map_cons, List.map_nil, literal?_null, literal?_zero, hdown, hempty]
  rfl

/-! ### Rows that are inserted -/

@[simp] theorem value?_bound (p : Param) : (ColumnValue.bound p).value? = some p.value := rfl

/-- The values that a success writes. -/
def successValues : RecordValues where
  totalCru := bigintOf report.total.cru
  totalSru := bigintOf report.total.sru
  totalHru := bigintOf report.total.hru
  totalMru := bigintOf report.total.mru
  usedCru := bigintOf report.used.cru
  usedSru := bigintOf report.used.sru
  usedHru := bigintOf report.used.hru
  usedMru := bigintOf report.used.mru
  usedIpv4u := bigintOf report.usedIpv4u
  status := "up"
  hypervisor := report.hypervisor
  zosVersion := report.zosVersion
  lastFetchAttempt := some (bigintOf time)
  lastFetchSuccess := some (bigintOf time)

/-- The upsert of a success. -/
def successUpsert : Upsert :=
  ⟨telemetryTable, (successRow nodeId report time).map (·.1), expressions 1 ((successRow nodeId report time).map (·.2)),
    "node_id", successUpdates⟩

theorem row_success :
    (successUpsert nodeId report time).row (recordSuccess nodeId report time).params =
      ("node_id", .int nodeId.toNat) :: (successValues report time).row := by
  refine (Upsert.row_upsert (isReadable_recordSuccess nodeId report time)).trans ?_
  simp [successRow, nodeNumber, bigintParam, Param.value, successValues, RecordValues.row, Status.name]

/-- The upsert of a failure. -/
def failureUpsert : Upsert :=
  ⟨telemetryTable, (failureRow nodeId reason time).map (·.1), expressions 1 ((failureRow nodeId reason time).map (·.2)),
    "node_id", failureUpdates⟩

private theorem row_failure :
    (failureUpsert nodeId reason time).row (recordFailure nodeId reason time).params =
      [("node_id", .int nodeId.toNat), ("status", .str "down"), ("retries", .int 1), ("last_error", .str reason),
        ("last_fetch_attempt", .int (bigintOf time))] := by
  have hone : (ColumnValue.fixed "1").value? = some (.int 1) := by
    rw [ColumnValue.value?, show "1".toList = ['1'] from String.toList_ofList]
    rfl
  refine (Upsert.row_upsert (isReadable_recordFailure nodeId reason time)).trans ?_
  simp [failureRow, hone, nodeNumber, bigintParam, Param.value, Status.name]

/-- The values of a new row that a failure writes. -/
def failureValues : RecordValues where
  retries := 1
  lastError := some reason
  lastFetchAttempt := some (bigintOf time)

theorem over_defaults_failure :
    ((failureUpsert nodeId reason time).row (recordFailure nodeId reason time).params).over
        (.ofDefaults (createdColumns telemetryTable setupScript.toList)) =
      ("node_id", .int nodeId.toNat) :: (failureValues reason time).row := by
  rw [ofDefaults_telemetryTable, row_failure]
  -- the columns are looked up one by one, since no name can be compared before it is known
  simp only [Row.over, RecordValues.row, List.map_cons, List.map_nil]
  simp only [Row.value?_cons, Row.value?_nil, String.reduceEq, ↓reduceIte, Option.getD_some, Option.getD_none]
  rfl

/-- An update gives every column but the key the value that it has in a new row. -/
private theorem assigns?_success {p : String × Json} (hp : p ∈ (successValues report time).row) :
    (successUpsert nodeId report time).assigns? (recordSuccess nodeId report time).params p.1 = some p.2 := by
  have hnodup : ((("node_id", .int nodeId.toNat) :: (successValues report time).row : Row).map (·.1)).Nodup :=
    (by decide : ("node_id" :: telemetryColumns).Nodup)
  have hvalue := Row.value?_of_mem hnodup (List.mem_cons_of_mem _ hp)
  have hcases : ∀ column ∈ telemetryColumns, column = "retries" ∨ column = "last_error" ∨
      successUpdates.find? (·.1 = column) = some (fromInserted column) := by decide +kernel
  obtain hretries | herror | hfrom := hcases p.1 (List.mem_map_of_mem (f := (·.1)) hp)
  · have hfind : (successUpsert nodeId report time).updates.find? (·.1 = "retries") = some ("retries", "0") := by
      change successUpdates.find? (·.1 = "retries") = _
      decide +kernel
    rw [hretries, Upsert.assigns?_of_literal hfind (by decide +kernel) (by decide +kernel), literal?_zero, ← hvalue,
      hretries]
    simp [successValues, RecordValues.row]
  · have hfind : (successUpsert nodeId report time).updates.find? (·.1 = "last_error") =
        some ("last_error", "NULL") := by
      change successUpdates.find? (·.1 = "last_error") = _
      decide +kernel
    rw [herror, Upsert.assigns?_of_literal hfind (by decide +kernel) (by decide +kernel), literal?_null, ← hvalue,
      herror]
    simp [successValues, RecordValues.row]
  · rw [Upsert.assigns?_of_fromInserted hfrom, row_success, hvalue]

end

/-- The columns of a report. -/
def reportColumns : List String :=
  ["total_cru", "total_sru", "total_hru", "total_mru", "used_cru", "used_sru", "used_hru", "used_mru", "used_ipv4u",
    "hypervisor", "zos_version"]

/-- What is written about a fetch is read back.  A success inserts a row with all the columns that are read and the
number of the node, each beside its own value: it is read as the report, with figures that are capped, and with no trace
of a failure, and an update of a row that is there already gives every column the same value.  A failure inserts a row
that is read as the record of a first failure; an update leaves the report and the time of the last success alone. -/
theorem written_records_are_read_back :
    (∀ (nodeId : UInt32) (report : Report) (time : UInt64), ∃ u columns,
      Upsert.ofText? (recordSuccess nodeId report time).text = some u ∧
      selected? (telemetryOf nodeId).text = some columns ∧
      let row := u.row (recordSuccess nodeId report time).params
      u.table = telemetryTable ∧ u.key = "node_id" ∧ u.columns = "node_id" :: columns ∧ u.columns.length = 17 ∧
      u.columns.Nodup ∧ row.map (·.1) = u.columns ∧ row.value? "node_id" = some (.int nodeId.toNat) ∧
      readRecord (row.select columns) = .ok
        { report :=
            { total := ⟨min report.total.cru 9223372036854775807, min report.total.sru 9223372036854775807,
                min report.total.hru 9223372036854775807, min report.total.mru 9223372036854775807⟩
              used := ⟨min report.used.cru 9223372036854775807, min report.used.sru 9223372036854775807,
                min report.used.hru 9223372036854775807, min report.used.mru 9223372036854775807⟩
              usedIpv4u := min report.usedIpv4u 9223372036854775807
              hypervisor := report.hypervisor
              zosVersion := report.zosVersion }
          status := .up
          retries := 0
          lastError := none
          lastFetchAttempt := some (min time 9223372036854775807)
          lastFetchSuccess := some (min time 9223372036854775807) } ∧
      ∀ p ∈ row, p.1 ≠ u.key → u.assigns? (recordSuccess nodeId report time).params p.1 = some p.2) ∧
    ∀ (nodeId : UInt32) (reason : String) (time : UInt64), ∃ u columns,
      Upsert.ofText? (recordFailure nodeId reason time).text = some u ∧
      selected? (telemetryOf nodeId).text = some columns ∧
      let row := (u.row (recordFailure nodeId reason time).params).over
        (.ofDefaults (createdColumns telemetryTable setupScript.toList))
      u.table = telemetryTable ∧ u.key = "node_id" ∧ row.value? "node_id" = some (.int nodeId.toNat) ∧
      readRecord (row.select columns) = .ok
        { report := {}
          status := .down
          retries := 1
          lastError := some reason
          lastFetchAttempt := some (min time 9223372036854775807)
          lastFetchSuccess := none } ∧
      ∀ column ∈ u.updates.map (·.1), column ∉ reportColumns ∧ column ≠ "last_fetch_success" := by
  refine ⟨fun nodeId report time => ?_, fun nodeId reason time => ?_⟩
  · refine ⟨successUpsert nodeId report time, telemetryColumns,
      Upsert.ofText?_upsert (isReadable_recordSuccess nodeId report time), selected?_telemetryOf nodeId, rfl, rfl, rfl,
      rfl, ?_, ?_, ?_, ?_, fun p hp hkey => ?_⟩
    · exact (by decide : ("node_id" :: telemetryColumns).Nodup)
    · rw [row_success]
      rfl
    · rw [row_success, Row.value?_cons, if_pos rfl]
    · rw [row_success, select_telemetryColumns, readRecord_row]
      simp only [successValues, unsigned_bigintOf, Option.map_some]
      rfl
    · rw [row_success] at hp
      rcases List.mem_cons.1 hp with rfl | hp
      · exact absurd rfl hkey
      · exact assigns?_success nodeId report time hp
  · refine ⟨failureUpsert nodeId reason time, telemetryColumns,
      Upsert.ofText?_upsert (isReadable_recordFailure nodeId reason time), selected?_telemetryOf nodeId, rfl, rfl, ?_,
      ?_, (by decide : ∀ column ∈ failureUpdates.map (·.1), column ∉ reportColumns ∧ column ≠ "last_fetch_success")⟩
    · rw [over_defaults_failure, Row.value?_cons, if_pos rfl]
    · rw [over_defaults_failure, select_telemetryColumns, readRecord_row]
      simp only [failureValues, unsigned_bigintOf, Option.map_some]
      rfl

/-- A node with more processors than the table can count. -/
def hugeReport : Report := { total := { cru := 18446744073709551615 } }

/-- What is written for it, into a new row or into one that is there already, is the largest number of the table. -/
theorem hugeReport_is_capped :
    (("total_cru", .int 9223372036854775807) ∈
        (successUpsert 7 hugeReport 0).row (recordSuccess 7 hugeReport 0).params ∧ "total_cru" ≠ "node_id") ∧
      (successUpsert 7 hugeReport 0).assigns? (recordSuccess 7 hugeReport 0).params "total_cru" =
        some (.int 9223372036854775807) := by
  have hmem : ("total_cru", .int 9223372036854775807) ∈
      (successUpsert 7 hugeReport 0).row (recordSuccess 7 hugeReport 0).params := by
    rw [row_success]
    exact List.mem_cons_of_mem _ (List.mem_cons_self ..)
  obtain ⟨u, columns, hu, -, -, -, -, -, -, -, -, -, hassigns⟩ := written_records_are_read_back.1 7 hugeReport 0
  cases hu.symm.trans (Upsert.ofText?_upsert (isReadable_recordSuccess 7 hugeReport 0))
  exact ⟨⟨hmem, by decide⟩, hassigns _ hmem (by decide)⟩

end GridGateway.Sql
