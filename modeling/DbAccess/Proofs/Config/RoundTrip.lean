import DbAccess.Config
import DbAccess.Proofs.Json.Record
/-!
# Settings survive JSON

The members of settings that are written are the fields that are looked for when settings are read, so that
settings are read back with spans of whole milliseconds (`Config.readAll_json`). They are then validated once
more. `Config.parse_json` says what comes of settings that were valid when they were written: a default timeout
of less than a millisecond has become no time at all, and is refused; everything else comes back.
-/

namespace DbAccess

namespace Span

/-- The span without what is left over of a millisecond, and with no more of them than 64 bits hold. -/
def wholeMillis (d : Span) : Span := .ofMillis (Min.min d.millis (limit64 - 1))

theorem ns_wholeMillis (d : Span) : d.wholeMillis.ns = Min.min d.millis (limit64 - 1) * nanosPerMilli := by
  have hlt : Min.min d.millis (limit64 - 1) * nanosPerMilli < spanLimit := by
    simp only [limit64, nanosPerMilli, spanLimit, nanosPerSecond]
    omega
  rw [wholeMillis, ofMillis, ofNanos, dif_pos hlt]

theorem isZero_wholeMillis (d : Span) : d.wholeMillis.isZero = (d.millis = 0 : Bool) := by
  rw [isZero, ns_wholeMillis, decide_eq_decide]
  simp only [limit64, nanosPerMilli]
  omega

end Span

namespace Json.Member

/-- A member that is an optional span. -/
def ofSpan (name : String) : Option Span → Member
  | none => ofNull name
  | some d => ofNat name (Min.min d.millis (limit64 - 1))

theorem entry_ofSpan (name : String) (d : Option Span) :
    (ofSpan name d).entry = (name, Config.spanText d) := by
  cases d <;> rfl

theorem name_ofSpan (name : String) (d : Option Span) : (ofSpan name d).name = name := by
  cases d <;> rfl

theorem readSpan_ofSpan (name : String) (d : Option Span) :
    Config.readSpan (ofSpan name d).value = some (d.map Span.wholeMillis) := by
  cases d with
  | none => rfl
  | some d =>
      have hlt : Min.min d.millis (limit64 - 1) < limit64 := by
        simp only [limit64]
        omega
      have hread := readNat_ofNat hlt (Nat.le_refl limit64)
      show ((readNat limit64 _).map Span.ofMillis).map some = _
      rw [show (ofSpan name (some d)).value = .number (.ofNat (Min.min d.millis (limit64 - 1))) from rfl,
        hread, Option.map_some, Option.map_some, Option.map_some, Span.wholeMillis]

end Json.Member

namespace Config

open Json

/-- The settings with spans of whole milliseconds. -/
def wholeMillis (c : Config) : Config :=
  { c with
    defaultTimeout := c.defaultTimeout.map Span.wholeMillis
    connectionLifetime := c.connectionLifetime.map Span.wholeMillis
    connectionIdleTimeout := c.connectionIdleTimeout.map Span.wholeMillis }

/-- The settings as the members of an object. -/
def members (c : Config) : List Member :=
  [.ofText "driver" c.driver, .ofText "dsn" c.dsn, .ofSpan "default_timeout" c.defaultTimeout,
    .ofNat "max_open_connections" c.maxOpenConnections,
    .ofNat "max_idle_connections" c.maxIdleConnections,
    .ofSpan "connection_lifetime" c.connectionLifetime,
    .ofSpan "connection_idle_timeout" c.connectionIdleTimeout]

theorem json_eq (c : Config) : c.json = objectText (c.members.map Member.entry) := by
  simp only [members, List.map_cons, List.map_nil, Member.entry_ofSpan]
  rfl

theorem name_members (c : Config) : c.members.map Member.name = fieldNames := by
  simp only [members, List.map_cons, List.map_nil, Member.name_ofSpan]
  rfl

/-- The settings that are read back. -/
theorem readAll_json {c : Config} (hopen : c.maxOpenConnections < limit64)
    (hidle : c.maxIdleConnections < limit64) : readAll read c.json = some c.wholeMillis := by
  have hfields := readFields_object (show (c.members.map Member.name).Nodup by rw [name_members]; decide)
  rw [name_members] at hfields
  have hsome : c.members ≠ [] := List.cons_ne_nil _ _
  rw [readAll, json_eq, parse?_objectText hsome, Option.bind_some, read, hfields]
  have htext (s : String) : readText (.string (s.toList.map Piece.ofChar)) = some s := text?_ofChar s
  simp only [members, List.map_cons, List.map_nil, Fields.getD, Fields.tree?,
    List.getElem?_cons_zero, List.getElem?_cons_succ, Option.bind_eq_bind, Option.bind_some, id,
    Member.readSpan_ofSpan]
  simp only [Member.ofText, Member.ofNat, htext, readNat_ofNat hopen (Nat.le_refl limit64),
    readNat_ofNat hidle (Nat.le_refl limit64), Option.bind_some]
  rfl

/-- What is wrong with the settings when their spans are whole milliseconds: the default timeout is no time
at all. -/
theorem fault?_wholeMillis {c : Config} (h : c.fault? = none) :
    c.wholeMillis.fault? = if c.defaultTimeout.any (·.millis = 0) then some .zeroTimeout else none := by
  have hzero : c.wholeMillis.defaultTimeout.any (·.isZero) = c.defaultTimeout.any (·.millis = 0) := by
    simp only [wholeMillis, Option.any_map, Span.isZero_wholeMillis]
  rw [fault?] at h
  split at h
  case isTrue => cases h
  case isFalse hdriver =>
    split at h
    case isTrue => cases h
    case isFalse hpool =>
      have hdriver' : ¬Text.allBlank c.wholeMillis.driver = true := hdriver
      have hpool' : ¬(0 < c.wholeMillis.maxOpenConnections ∧
          c.wholeMillis.maxOpenConnections < c.wholeMillis.maxIdleConnections) := hpool
      rw [fault?, if_neg hdriver', if_neg hpool', hzero]

theorem fault?_of_validate {c : Config} (h : c.validate = .ok ()) : c.fault? = none := by
  rw [validate] at h
  split at h
  case h_1 => cases h
  case h_2 hfault => exact hfault

/-- **Valid settings are read back** with spans of whole milliseconds, unless their default timeout is less than
one. -/
theorem parse_json {c : Config} (hopen : c.maxOpenConnections < limit64)
    (hidle : c.maxIdleConnections < limit64) (hvalid : c.validate = .ok ()) :
    parse c.json =
      if c.defaultTimeout.any (·.millis = 0) then .error (.config .zeroTimeout)
      else .ok c.wholeMillis := by
  have hfault := fault?_wholeMillis (fault?_of_validate hvalid)
  rw [parse, readAll_json hopen hidle]
  show (c.wholeMillis.validate >>= fun _ => pure c.wholeMillis) = _
  rw [validate, hfault]
  cases c.defaultTimeout.any (·.millis = 0) <;> rfl

/-- Settings with all kinds of spans: of more than a millisecond, of less, and of the greatest length. -/
def manySpans : Config :=
  { new "my\tsql" "a\"b" with
    defaultTimeout := some ⟨1500000, by decide⟩
    maxOpenConnections := 10
    maxIdleConnections := 10
    connectionLifetime := some ⟨999999, by decide⟩
    connectionIdleTimeout := some .longest }

/-- The default timeout loses half a millisecond, one span all it has, and the longest one all that 64 bits of
milliseconds do not hold. -/
theorem parse_json_of_manySpans :
    manySpans.validate = .ok () ∧
      parse manySpans.json =
        .ok { manySpans with
          defaultTimeout := some (.ofMillis 1)
          connectionLifetime := some .zero
          connectionIdleTimeout := some (.ofMillis 18446744073709551615) } := by
  have hvalid : manySpans.validate = .ok () := by decide +kernel
  exact ⟨hvalid, (parse_json (by decide) (by decide) hvalid).trans (by decide +kernel)⟩

/-- Half a millisecond is a valid default timeout, and it is refused when it is read back. -/
theorem half_millisecond_refused :
    let c := { new "fake" "fake://" with defaultTimeout := some ⟨500000, by decide⟩ }
    c.validate = .ok () ∧ parse c.json = .error (.config .zeroTimeout) ∧ parse c.json ≠ .ok c.wholeMillis := by
  decide +kernel

end Config

end DbAccess
