import RatsRs.Errors
import RatsRs.Lib.Packed

/-! The quote structures of the Intel headers.

`sgx_quote_3.h`, `sgx_quote_4.h` and `sgx_quote_5.h` declare them packed, so an
offset is the sum of the sizes before it. The trailing flexible arrays
(`signature_data`, and `body` of `sgx_quote5_t`) take no room. -/
namespace RatsRs.Tee
open Lib

inductive Quote4Header where
  | version
  | attKeyType
  | teeType
  | reserved
  | vendorId
  | userData
  deriving DecidableEq, Repr

/-- `sgx_quote4_header_t`. -/
def sgxQuote4Header : Packed Quote4Header :=
  [(.version, 2), (.attKeyType, 2), (.teeType, 4), (.reserved, 4), (.vendorId, 16), (.userData, 20)]

inductive ReportField where
  | cpuSvn
  | miscSelect
  | reserved1
  | isvExtProdId
  | attributes
  | mrEnclave
  | reserved2
  | mrSigner
  | reserved3
  | configId
  | isvProdId
  | isvSvn
  | configSvn
  | reserved4
  | isvFamilyId
  | reportData
  deriving DecidableEq, Repr

/-- `sgx_report_body_t`. -/
def sgxReportBody : Packed ReportField :=
  [(.cpuSvn, 16), (.miscSelect, 4), (.reserved1, 12), (.isvExtProdId, 16), (.attributes, 16),
    (.mrEnclave, 32), (.reserved2, 32), (.mrSigner, 32), (.reserved3, 32), (.configId, 64),
    (.isvProdId, 2), (.isvSvn, 2), (.configSvn, 2), (.reserved4, 42), (.isvFamilyId, 16),
    (.reportData, 64)]

inductive QuoteField where
  | header
  | reportBody
  | signatureDataLen
  deriving DecidableEq, Repr

/-- `sgx_quote3_t`: header, report body, length of the signature that follows. -/
def sgxQuote3 : Packed QuoteField :=
  [(.header, 48), (.reportBody, sgxReportBody.size), (.signatureDataLen, 4)]

/-- The fields of a TD report; the last two are in TDX 1.5 reports only. -/
inductive Report2Field where
  | teeTcbSvn
  | mrSeam
  | mrsignerSeam
  | seamAttributes
  | tdAttributes
  | xfam
  | mrTd
  | mrConfigId
  | mrOwner
  | mrOwnerConfig
  | rtMr0
  | rtMr1
  | rtMr2
  | rtMr3
  | reportData
  | teeTcbSvn2
  | mrServicetd
  deriving DecidableEq, Repr

/-- `sgx_report2_body_t`. -/
def sgxReport2Body : Packed Report2Field :=
  [(.teeTcbSvn, 16), (.mrSeam, 48), (.mrsignerSeam, 48), (.seamAttributes, 8), (.tdAttributes, 8),
    (.xfam, 8), (.mrTd, 48), (.mrConfigId, 48), (.mrOwner, 48), (.mrOwnerConfig, 48),
    (.rtMr0, 48), (.rtMr1, 48), (.rtMr2, 48), (.rtMr3, 48), (.reportData, 64)]

/-- `sgx_report2_body_v1_5_t`. -/
def sgxReport2BodyV15 : Packed Report2Field :=
  sgxReport2Body ++ [(.teeTcbSvn2, 16), (.mrServicetd, 48)]

/-- `sgx_quote4_t`. -/
def sgxQuote4 : Packed QuoteField :=
  [(.header, sgxQuote4Header.size), (.reportBody, sgxReport2Body.size), (.signatureDataLen, 4)]

inductive Quote5Field where
  | header
  | type_
  | size
  | body
  deriving DecidableEq, Repr

/-- `sgx_quote5_t`: the body, whose layout depends on `type_`, starts at its end. -/
def sgxQuote5 : Packed Quote5Field :=
  [(.header, sgxQuote4Header.size), (.type_, 2), (.size, 4), (.body, 0)]

/-- The sizes the headers give. -/
example : [sgxQuote3.size, sgxQuote4.size, sgxQuote5.size] = [436, 636, 54] ∧
    [sgxReportBody.size, sgxReport2Body.size, sgxReport2BodyV15.size] = [384, 584, 648] := by
  decide

/-! ### Reads through a pointer -/

/-- A reference `&*(p as *const T)`: the whole record must lie inside the string. -/
def deref (data : Bytes) (record : Span) : Except Crash Nat :=
  if record.Within data then .ok record.offset else .error .outOfBounds

/-- The bytes of a field. -/
def readField (data : Bytes) (field : Span) : Except Crash Bytes :=
  if field.Within data then .ok (field.read data) else .error .outOfBounds

/-- An unsigned field, in the byte order of the host. -/
def readUint (data : Bytes) (field : Span) : Except Crash Nat := do
  let b ← readField data field
  pure (leNat b)

theorem deref_of_within {data : Bytes} {record : Span} (h : record.Within data) :
    deref data record = .ok record.offset := if_pos h

theorem deref_zero {data : Bytes} {size : Nat} (h : size ≤ data.length) :
    deref data ⟨0, size⟩ = .ok 0 :=
  deref_of_within (by simpa [Span.Within] using h)

theorem readField_of_within {data : Bytes} {field : Span} (h : field.Within data) :
    readField data field = .ok (field.read data) := if_pos h

theorem readUint_of_within {data : Bytes} {field : Span} (h : field.Within data) :
    readUint data field = .ok (leNat (field.read data)) := by
  rw [readUint, readField_of_within h]
  rfl

end RatsRs.Tee
