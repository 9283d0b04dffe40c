import GridGateway.Bus.Relay
import GridGateway.Proofs.Json.Parsing
import GridGateway.Proofs.Text.Base64
import GridGateway.Proofs.Text.Percent

/-!
# Payloads of envelopes

The text of a payload `Says` a document, or it is `Senseless` (`says_or_senseless`).  A payload is decoded as what it
says and refused if it is senseless (`decodePayload_eq_ok_iff`, `senseless_iff`), and the payload that is built for a
document says this document (`says_encodePayload`).

* `Envelope.payloads_survive`: what replies are read as.
-/

namespace GridGateway.Bus

open Json
open Text (ofUtf8Bytes? utf8Bytes)
open Text.Base64 (Fault Writes)

/-- What the text of a payload says: without any text `null`, and else the document of which it writes the text. -/
inductive Says (dat : String) : Json → Prop where
  | nothing (h : dat = "") : Says dat .null
  | document {text : String} {v : Json} (hdat : Writes dat.toList (utf8Bytes text.toList))
    (htext : parse? text = some v) : Says dat v

/-- Why the text of a payload does not say anything. -/
inductive Senseless (dat : String) : Prop where
  /-- It does not write any bytes. -/
  | fault (h : Fault dat.toList) : Senseless dat
  /-- It writes bytes, and they are not the text of a document. -/
  | document {bytes : List UInt8} (hdat : Writes dat.toList bytes) (hbytes : bytes ≠ [])
    (htext : ∀ text, bytes = utf8Bytes text.toList → parse? text = none) : Senseless dat

/-! ### Reading payloads -/

variable {command dat : String} {bytes : List UInt8} {v : Json}

private theorem decodePayload_of_writes (hdat : Writes dat.toList bytes) (hbytes : bytes ≠ []) :
    decodePayload command dat =
      match (ofUtf8Bytes? bytes).bind parse? with
      | some v => .ok v
      | none => .error (.decode command "the payload is not JSON") := by
  rw [decodePayload, Text.Base64.decode?_eq_some_iff.2 hdat]
  split
  · next h => cases h
  · next h => exact absurd (Option.some.inj h) hbytes
  · next h =>
    obtain rfl := Option.some.inj h
    rfl

/-- A payload is decoded as what it says. -/
theorem Says.decodePayload (h : Says dat v) : decodePayload command dat = .ok v := by
  cases h with
  | nothing h =>
    subst h
    rfl
  | @document text _ hdat htext =>
    -- no bytes would be read as `null`, but then the text would be empty, and this is no document
    have hbytes : utf8Bytes text.toList ≠ [] := by
      intro hnil
      obtain rfl : text = "" :=
        String.toList_eq_nil_iff.1 (Text.utf8Bytes_injective (hnil.trans Text.utf8Bytes_nil.symm))
      have hempty : parse? "" = none := by decide +kernel
      rw [hempty] at htext
      cases htext
    rw [decodePayload_of_writes hdat hbytes, Text.ofUtf8Bytes?_eq_some_iff.2 rfl, Option.bind_some, htext]

/-- A senseless payload is refused. -/
theorem Senseless.decodePayload (h : Senseless dat) :
    ∃ reason, decodePayload command dat = .error (.decode command reason) := by
  cases h with
  | fault h =>
    rw [Bus.decodePayload, Text.Base64.decode?_eq_none_iff.2 h]
    exact ⟨_, rfl⟩
  | @document bytes hdat hbytes htext =>
    have hnone : (ofUtf8Bytes? bytes).bind parse? = none :=
      Option.bind_eq_none_iff.2 fun text h => htext text (Text.ofUtf8Bytes?_eq_some_iff.1 h)
    rw [decodePayload_of_writes hdat hbytes, hnone]
    exact ⟨_, rfl⟩

/-- A payload that is not senseless says something. -/
theorem says_or_senseless (dat : String) : (∃ v, Says dat v) ∨ Senseless dat := by
  by_cases hfault : Fault dat.toList
  · exact .inr (.fault hfault)
  obtain ⟨bytes, hbytes⟩ := Option.ne_none_iff_exists'.1 (mt Text.Base64.decode?_eq_none_iff.1 hfault)
  have hdat := Text.Base64.decode?_eq_some_iff.1 hbytes
  by_cases hnil : bytes = []
  · subst hnil
    have hempty : dat.toList = [] := hdat.unique (Text.Base64.writes_encode [])
    exact .inl ⟨.null, .nothing (String.toList_eq_nil_iff.1 hempty)⟩
  by_cases htext : ∃ text, bytes = utf8Bytes text.toList ∧ parse? text ≠ none
  · obtain ⟨text, rfl, hparse⟩ := htext
    obtain ⟨v, hv⟩ := Option.ne_none_iff_exists'.1 hparse
    exact .inl ⟨v, .document hdat hv⟩
  · exact .inr (.document hdat hnil fun text h => by_contra fun hparse => htext ⟨text, h, hparse⟩)

theorem decodePayload_eq_ok_iff : decodePayload command dat = .ok v ↔ Says dat v := by
  refine ⟨fun h => ?_, Says.decodePayload⟩
  rcases says_or_senseless dat with ⟨w, hw⟩ | hnone
  · rw [hw.decodePayload] at h
    exact Except.ok.inj h ▸ hw
  · obtain ⟨reason, hreason⟩ : ∃ reason, decodePayload command dat = .error (.decode command reason) :=
      hnone.decodePayload
    rw [hreason] at h
    cases h

theorem senseless_iff : Senseless dat ↔ ∃ reason, decodePayload command dat = .error (.decode command reason) := by
  refine ⟨Senseless.decodePayload, fun ⟨reason, h⟩ => ?_⟩
  refine (says_or_senseless dat).resolve_left fun ⟨v, hv⟩ => ?_
  rw [hv.decodePayload] at h
  cases h

/-! ### Payloads that are sent -/

/-- The payload for a document writes the text of the document. -/
private theorem writes_encodePayload (v : Json) :
    Writes (encodePayload v).toList (utf8Bytes v.canonical.text.toList) := by
  rw [encodePayload, String.toList_ofList, Json.text, String.toList_ofList]
  exact Text.Base64.writes_encode _

/-- The payload for a document says the document. -/
theorem says_encodePayload (hexact : v.Exact) (hdepth : v.depth < depthLimit) :
    Says (encodePayload v) v.canonical := by
  refine .document (writes_encodePayload v) ?_
  rw [parse?_text (Exact.canonical v hexact), if_pos (Nat.lt_of_le_of_lt (depth_canonical_le v) hdepth),
    canonical_canonical]

/-! ### Replies -/

namespace Envelope

private theorem value_of_err {e : Envelope} {twinId : UInt32} (h : e.err ≠ "") :
    e.value command twinId = .error (.remote twinId e.err) := by
  rw [value, if_neg (mt String.isEmpty_iff.1 h)]

private theorem value_of_no_err {e : Envelope} {twinId : UInt32} (h : e.err = "") :
    e.value command twinId = decodePayload command e.dat := by
  rw [value, if_pos (String.isEmpty_iff.2 h)]

/-- A reply with an error of the twin is this error, whatever its payload.  Any other reply is what its payload says:
`null` if it is empty, and the document for which it was built, if that has no doubles and its containers are nested
at most 127 deep.  A payload that does not say anything, be it for a fault of the base64 or for bytes that are no
document, is refused, in the name of the command. -/
theorem payloads_survive (command : String) (twinId : UInt32) (e : Envelope) :
    (e.err ≠ "" → e.value command twinId = .error (.remote twinId e.err)) ∧
    (e.err = "" →
      (e.dat = "" → e.value command twinId = .ok .null) ∧
      (∀ (r : Relay) (uid : String) (now : UInt64) (receiver : UInt32) (sent : String) (v : Json),
        v.Exact → v.depth ≤ 127 → e.dat = (r.envelope uid now receiver sent v).dat →
          Writes e.dat.toList (utf8Bytes v.canonical.text.toList) ∧ e.value command twinId = .ok v.canonical ∧
          (v.Sorted → e.value command twinId = .ok v)) ∧
      (∀ v, e.value command twinId = .ok v ↔ Says e.dat v) ∧
      (Senseless e.dat ↔ ∃ reason, e.value command twinId = .error (.decode command reason)) ∧
      ((∃ v, Says e.dat v) ∨ Senseless e.dat)) := by
  refine ⟨value_of_err, fun herr => ?_⟩
  rw [value_of_no_err herr]
  refine ⟨fun h => Says.decodePayload (.nothing h), fun r uid now receiver sent v hexact hdepth hdat => ?_,
    fun v => decodePayload_eq_ok_iff, senseless_iff, says_or_senseless e.dat⟩
  have hsays : Says e.dat v.canonical := hdat ▸ says_encodePayload hexact (Nat.lt_succ_of_le hdepth)
  have hresult : decodePayload command e.dat = .ok v.canonical := hsays.decodePayload
  exact ⟨hdat ▸ writes_encodePayload v, hresult, fun hsorted => Sorted.canonical v hsorted ▸ hresult⟩

/-- A document with a list, a negative number and a text beyond ASCII. -/
def roster : Json := .obj [("ids", .arr [.int 1, .int (-2)]), ("name", .str "grüß\n")]

/-- A relay in whose envelopes the roster travels. -/
def courier : Relay := { base := ⟨"http://relay"⟩, source := 1, expiration := 10 }

/-- The roster comes back.  The bytes of `nu` are no document, and after them a bit may not be left over; neither
matters if the twin has failed. -/
theorem roster_survives :
    (roster.Exact ∧ roster.Sorted ∧ roster.depth ≤ 127 ∧ Senseless "bnU=" ∧ Senseless "bnV=" ∧ "denied" ≠ "") ∧
    ({ dat := (courier.envelope "u" 0 7 "c" roster).dat } : Envelope).value "c" 7 = .ok roster ∧
    (∃ reason, ({ dat := "bnU=" } : Envelope).value "c" 7 = .error (.decode "c" reason)) ∧
    (∃ reason, ({ dat := "bnV=" } : Envelope).value "c" 7 = .error (.decode "c" reason)) ∧
    ({ dat := "bnV=", err := "denied" } : Envelope).value "c" 7 = .error (.remote 7 "denied") := by
  have hexact : roster.Exact :=
    ⟨⟨by constructor <;> decide, by constructor <;> decide, trivial⟩, trivial, trivial⟩
  have hsorted : roster.Sorted :=
    ⟨List.pairwise_pair.2 (by decide +kernel), ⟨trivial, trivial, trivial⟩, trivial, trivial⟩
  have hdepth : roster.depth ≤ 127 := by decide
  have hwrites : Writes "bnU=".toList [110, 117] := Text.Base64.decode?_eq_some_iff.1 (by decide +kernel)
  have hread : ofUtf8Bytes? [110, 117] = some "nu" := by decide +kernel
  have htext : Senseless "bnU=" := by
    refine .document hwrites (List.cons_ne_nil 110 [117]) fun text h => ?_
    obtain rfl : "nu" = text := Option.some.inj (hread.symm.trans (Text.ofUtf8Bytes?_eq_some_iff.2 h))
    decide +kernel
  have hbits : Senseless "bnV=" :=
    .fault (@Fault.trailing _ ['b', 'n'] 'V' 1 (by decide +kernel) (by decide) (by decide) (by decide))
  refine ⟨⟨hexact, hsorted, hdepth, htext, hbits, by decide⟩, ?_, ?_, ?_, ?_⟩
  · obtain ⟨-, hsent, -⟩ := (payloads_survive "c" 7 { dat := (courier.envelope "u" 0 7 "c" roster).dat }).2 rfl
    exact (hsent courier "u" 0 7 "c" roster hexact hdepth rfl).2.2 hsorted
  · obtain ⟨-, -, -, hsenseless, -⟩ := (payloads_survive "c" 7 { dat := "bnU=" }).2 rfl
    exact hsenseless.1 htext
  · obtain ⟨-, -, -, hsenseless, -⟩ := (payloads_survive "c" 7 { dat := "bnV=" }).2 rfl
    exact hsenseless.1 hbits
  · exact (payloads_survive "c" 7 { dat := "bnV=", err := "denied" }).1 (by decide)

end Envelope

end GridGateway.Bus
