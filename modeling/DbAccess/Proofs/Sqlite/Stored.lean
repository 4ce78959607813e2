import DbAccess.Proofs.Decimal.Rounding
import DbAccess.Proofs.Json.Record
import DbAccess.Proofs.Text.Utf8
import DbAccess.Sqlite.Stored
import DbAccess.Value.Typed
/-!
# What is read of values that were stored

`readBack` is what comes back of a value that was bound as an argument and is read from a column. There are fewer
storage classes than kinds of values, so it may be another value; but a decoder that has read the one reads the
same from the other (`Keeps`). The exception are decimals: they come back as texts, and no text is read as a
double (`decode_readBack`).
-/

namespace DbAccess

/-- A floating-point value that is no number. -/
def Value.isNaN : Value → Bool
  | float x => x.unpack = .nan
  | double x => x.unpack = .nan
  | _ => false

/-- A decimal number. -/
def Value.isDecimal : Value → Bool
  | decimal _ => true
  | _ => false

/-- The type without the options around it. -/
def ValueType.inner : ValueType → ValueType
  | option t => t.inner
  | t => t

namespace Sqlite

open Decimal

/-! ### What comes back -/

/-- What comes back of a value that is bound and then read from a column. -/
def readBack (v : Value) : Value := (Stored.ofValue v).toValue

theorem toValue_ofDouble {x : Binary64} (h : x.unpack ≠ .nan) :
    (Stored.ofDouble x).toValue = .double x := by
  rw [Stored.ofDouble, if_neg h]
  rfl

theorem toValue_ofText (s : String) : (Stored.ofText s).toValue = .text s :=
  congrArg Value.text (Text.decodeLossy_utf8 s)

variable {v : Value}

theorem isNull_readBack (h : v.isNaN = false) : (readBack v).isNull = v.isNull := by
  cases v with
  | float x =>
      have hx : x.unpack ≠ .nan := of_decide_eq_false h
      rw [readBack, Stored.ofValue, toValue_ofDouble (Binary32.unpack_widen hx)]
      rfl
  | double x =>
      rw [readBack, Stored.ofValue, toValue_ofDouble (of_decide_eq_false h)]
  | _ => rfl

theorem asInt64?_readBack (v : Value) : (readBack v).asInt64? = v.asInt64? := by
  have hdouble : ∀ x : Binary64, (Stored.ofDouble x).toValue.asInt64? = none := by
    intro x
    rw [Stored.ofDouble]
    split <;> rfl
  cases v with
  | float x => exact hdouble x.widen
  | double x => exact hdouble x
  | _ => rfl

theorem asDouble?_readBack (h : v.isNaN = false) (hdecimal : v.isDecimal = false) :
    (readBack v).asDouble? = v.asDouble? := by
  cases v with
  | float x =>
      have hx : x.unpack ≠ .nan := of_decide_eq_false h
      rw [readBack, Stored.ofValue, toValue_ofDouble (Binary32.unpack_widen hx)]
      rfl
  | double x =>
      rw [readBack, Stored.ofValue, toValue_ofDouble (of_decide_eq_false h)]
  | decimal s => cases hdecimal
  | _ => rfl

/-! ### What is still read -/

/-- What a decoder reads from a value it also reads from what comes back of it. -/
def Keeps {α : Type} (d : Decoder α) (v : Value) : Prop := ∀ a, d v = .ok a → d (readBack v) = .ok a

section decoders

variable {α β : Type} {d : Decoder α}

theorem Keeps.map (h : Keeps d v) (f : α → β) : Keeps (fun v => (d v).map f) v := by
  intro b hb
  dsimp only at hb ⊢
  cases hd : d v with
  | ok a =>
      rw [hd] at hb
      rw [h a hd]
      exact hb
  | error e =>
      rw [hd] at hb
      cases hb

theorem Keeps.toOption (h : Keeps d v) (hnan : v.isNaN = false) : Keeps (Value.toOption d) v := by
  intro a ha
  rw [Value.toOption, isNull_readBack hnan]
  rw [Value.toOption] at ha
  split
  case isTrue hnull => rwa [if_pos hnull] at ha
  case isFalse hnull =>
    rw [if_neg hnull] at ha
    exact h.map some a ha

theorem keeps_expect {expected : String} {view : Value → Option α} (h : view (readBack v) = view v) :
    Keeps (Value.expect expected view) v := by
  intro a ha
  rw [Value.expect] at ha ⊢
  rw [h]
  cases hview : view v with
  | some b =>
      rw [hview] at ha
      exact ha
  | none =>
      rw [hview] at ha
      cases ha

end decoders

theorem keeps_toInt64 (v : Value) : Keeps Value.toInt64 v := keeps_expect (asInt64?_readBack v)

theorem keeps_toInt32 (v : Value) : Keeps Value.toInt32 v := by
  intro n hn
  cases hwide : v.toInt64 with
  | ok wide =>
      rw [Value.toInt32, hwide] at hn
      rw [Value.toInt32, keeps_toInt64 v wide hwide]
      exact hn
  | error e =>
      rw [Value.toInt32, hwide] at hn
      cases hn

theorem keeps_toBool (v : Value) : Keeps Value.toBool v :=
  keeps_expect (congrArg (Option.map (· != 0)) (asInt64?_readBack v))

theorem keeps_toDouble (hnan : v.isNaN = false) (hdecimal : v.isDecimal = false) :
    Keeps Value.toDouble v :=
  keeps_expect (asDouble?_readBack hnan hdecimal)

theorem keeps_toText (v : Value) : Keeps Value.toText v := by
  intro s hs
  cases v with
  | text t | decimal t =>
      rw [readBack, Stored.ofValue, toValue_ofText]
      exact hs
  | json j =>
      rw [readBack, Stored.ofValue, toValue_ofText]
      exact hs
  | _ => cases hs

theorem keeps_toBytes (v : Value) : Keeps Value.toBytes v := by
  intro b hb
  cases v with
  | bytes c => exact hb
  | text t =>
      rw [readBack, Stored.ofValue, toValue_ofText]
      exact hb
  | _ => cases hb

theorem keeps_toJson (h : ∀ j, v = .json j → Json.parse? j.render = some j) : Keeps Value.toJson v := by
  intro j hj
  cases v with
  | json k =>
      cases hj
      rw [readBack, Stored.ofValue, toValue_ofText, Value.toJson, h j rfl]
  | text t =>
      rw [readBack, Stored.ofValue, toValue_ofText]
      exact hj
  | _ => cases hj

/-! ### Types -/

theorem keeps_decode (t : ValueType) (hnan : v.isNaN = false)
    (hdecimal : t.inner = .double → v.isDecimal = false)
    (hjson : t.inner = .json → ∀ j, v = .json j → Json.parse? j.render = some j) : Keeps t.decode v := by
  induction t with
  | int64 => exact (keeps_toInt64 v).map Typed.int64
  | int32 => exact (keeps_toInt32 v).map Typed.int32
  | double => exact (keeps_toDouble hnan (hdecimal rfl)).map Typed.double
  | bool => exact (keeps_toBool v).map Typed.bool
  | text => exact (keeps_toText v).map Typed.text
  | bytes => exact (keeps_toBytes v).map Typed.bytes
  | json => exact (keeps_toJson (hjson rfl)).map Typed.json
  | option t ih => exact ((ih hdecimal hjson).toOption hnan).map (·.getD .nothing)

theorem decode_readBack_decimal {t : ValueType} (ht : t.inner = .double) (s : String) :
    t.decode (readBack (.decimal s)) = .error (.mismatch "number" "TEXT") := by
  have hback : readBack (.decimal s) = .text s := toValue_ofText s
  rw [hback]
  induction t with
  | double => rfl
  | option t ih =>
      have hread : (ValueType.option t).decode (.text s) = ((t.decode (.text s)).map some).map (·.getD .nothing) :=
        rfl
      rw [hread, ih ht]
      rfl
  | _ => cases ht

/-- **What a type reads from a value, it still reads after the value was stored**, unless a decimal was read as a
double, alone or as an option: it comes back as a text, which is refused. Floats are to be numbers, and a JSON
value is to be what its text is read as. -/
theorem decode_readBack (t : ValueType) (v : Value) (x : Typed) (hnan : v.isNaN = false)
    (hjson : t.inner = .json → ∀ j, v = .json j → Json.parse? j.render = some j)
    (hread : t.decode v = .ok x) :
    t.decode (readBack v) =
      if v.isDecimal ∧ t.inner = .double then .error (.mismatch "number" "TEXT") else .ok x := by
  split
  case isTrue h =>
    cases v with
    | decimal s => exact decode_readBack_decimal h.2 s
    | _ => cases h.1
  case isFalse h =>
    refine keeps_decode t hnan (fun ht => ?_) hjson x hread
    exact Bool.eq_false_iff.mpr fun hdecimal => h ⟨hdecimal, ht⟩

/-- A JSON value with members. -/
def jsonRecord : Json := .object [("age", .null), ("name", .string "o'brien")]

theorem parse?_jsonRecord : Json.parse? jsonRecord.render = some jsonRecord := by
  have htree := Json.parse?_objectText (List.cons_ne_nil (.ofNull "age") [.ofText "name" "o'brien"])
  have hrender : jsonRecord.render =
      Json.objectText ([.ofNull "age", .ofText "name" "o'brien"].map Json.Member.entry) := by decide +kernel
  rw [Json.parse?, hrender, htree]
  rfl

/-- A single is read as a double, an integer as a truth value and JSON as an option of it, before and after. -/
theorem decode_readBack_of_record :
    ValueType.double.decode (readBack (.float ⟨0x3FC00000⟩)) = .ok (.double ⟨0x3FF8000000000000⟩) ∧
      ValueType.bool.decode (readBack (.smallInt (-3))) = .ok (.bool true) ∧
      (ValueType.option .json).decode (readBack (.json jsonRecord)) = .ok (.json jsonRecord) := by
  have hjson : ∀ j, Value.json jsonRecord = .json j → Json.parse? j.render = some j := by
    intro j hj
    cases hj
    exact parse?_jsonRecord
  have hwiden : Binary32.widen ⟨0x3FC00000⟩ = ⟨0x3FF8000000000000⟩ := by decide +kernel
  refine ⟨?_, ?_, ?_⟩
  · exact decode_readBack .double (.float ⟨0x3FC00000⟩) _ (by decide +kernel) nofun
      (congrArg (fun x => Except.ok (Typed.double x)) hwiden)
  · exact decode_readBack .bool (.smallInt (-3)) _ rfl nofun rfl
  · exact decode_readBack (.option .json) (.json jsonRecord) _ rfl (fun _ => hjson) rfl

/-- A decimal is read as a double, and what comes back of it is not. -/
theorem double_of_decimal_lost :
    (Value.decimal "12.5").isNaN = false ∧
      ValueType.double.decode (.decimal "12.5") = .ok (.double ⟨0x4029000000000000⟩) ∧
      ValueType.double.decode (readBack (.decimal "12.5")) = .error (.mismatch "number" "TEXT") := by
  have hparse : Binary64.parse? "12.5" = some ⟨0x4029000000000000⟩ := by decide +kernel
  have hread : Value.toDouble (.decimal "12.5") = .ok ⟨0x4029000000000000⟩ := by
    rw [Value.toDouble, Value.expect, Value.asDouble?, hparse]
  exact ⟨rfl, congrArg (Except.map Typed.double) hread, decode_readBack_decimal rfl "12.5"⟩

end Sqlite

end DbAccess
