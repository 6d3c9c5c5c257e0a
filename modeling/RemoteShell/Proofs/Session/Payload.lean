import RemoteShell.Proofs.Base64.Decoding
import RemoteShell.Proofs.Control.FramePrinting
import RemoteShell.Proofs.Session.IgnoredFrames

/-!
# The payload of a frame

A frame of the type `cmd` asks for input, and its payload is the canonical base64 text of
that input. No other payload is taken for any input: the relay passes over the frame, and
the shell is given nothing for it.
-/

namespace RemoteShell

open Control (Frame)
open Base64 (IsCanonical)

variable {text : String} {frame : Frame} {bytes : List UInt8}

namespace Control

/-- What is decoded is what the frame in the text asks for. -/
theorem decode_eq_command (hread : Frame.read text = .ok frame) : decode text = frame.command := by
  rw [decode, hread]

/-- A frame that carries a payload asks for input, unless the payload is refused. -/
theorem Frame.command_of_kind (hkind : frame.kind = "cmd") :
    frame.command =
      ((Base64.decode (Text.utf8 frame.cmd.toList)).map Command.input).mapError .badPayload := by
  rw [Frame.command]
  simp only [hkind]
  cases Base64.decode (Text.utf8 frame.cmd.toList) <;> rfl

/-- The input that a frame asks for is the one that its payload is the text of. -/
theorem decode_eq_input_iff (hread : Frame.read text = .ok frame) (hkind : frame.kind = "cmd") :
    decode text = .ok (.input bytes) ↔ IsCanonical bytes frame.cmd.toList := by
  rw [decode_eq_command hread, Frame.command_of_kind hkind, ← Base64.decode_utf8_eq_ok_iff]
  cases Base64.decode (Text.utf8 frame.cmd.toList) with
  | error e => exact ⟨nofun, nofun⟩
  | ok read => simp [Except.map, Except.mapError]

/-- A payload that is no canonical text is refused. -/
theorem exists_badPayload (hread : Frame.read text = .ok frame) (hkind : frame.kind = "cmd")
    (hpayload : ∀ bytes, ¬ IsCanonical bytes frame.cmd.toList) :
    ∃ e, Base64.decode (Text.utf8 frame.cmd.toList) = .error e ∧
      decode text = .error (.badPayload e) := by
  rw [decode_eq_command hread, Frame.command_of_kind hkind]
  cases hdecode : Base64.decode (Text.utf8 frame.cmd.toList) with
  | ok read => exact absurd (Base64.decode_utf8_eq_ok_iff.mp hdecode) (hpayload read)
  | error e => exact ⟨e, rfl, rfl⟩

/-- The payload that is written for some input is its canonical text. -/
theorem isCanonical_input (bytes : List UInt8) :
    IsCanonical bytes (Frame.input bytes).cmd.toList := by
  rw [Frame.input, String.toList_ofList]
  exact Base64.isCanonical_encode bytes

theorem decode_print_input (bytes : List UInt8) :
    decode (Frame.input bytes).print = .ok (.input bytes) :=
  (decode_eq_input_iff (Frame.input bytes).read_print rfl).mpr (isCanonical_input bytes)

end Control

/-- A text that holds no command asks for nothing, and does not end the session. -/
theorem isIgnored_of_decode_eq_error {e : Control.CommandError}
    (h : Control.decode text = .error e) : (Arrival.text text).isIgnored = true := by
  rw [Arrival.isIgnored, Arrival.request?, h]
  rfl

/-- The payload of a frame and the input that it asks for determine each other. From the
frame that is written for some input just that input is decoded. A frame of the type `cmd`
asks for some input if and only if its payload is the canonical text of that input, so two
frames that ask for the same input have the same payload. Where the payload is the
canonical text of nothing, the frame is refused for its payload, it requests nothing of the
shell, and a relay that reads it goes on to the next frame while all else stays as it is. -/
theorem payload_exact (hread : Frame.read text = .ok frame) (hkind : frame.kind = "cmd") :
    (∀ bytes, Control.decode (Frame.input bytes).print = .ok (.input bytes)) ∧
      (∀ bytes, Control.decode text = .ok (.input bytes) ↔ IsCanonical bytes frame.cmd.toList) ∧
      (∀ other otherFrame bytes, Frame.read other = .ok otherFrame → otherFrame.kind = "cmd" →
        Control.decode text = .ok (.input bytes) → Control.decode other = .ok (.input bytes) →
          frame.cmd = otherFrame.cmd) ∧
      ((∀ bytes, ¬ IsCanonical bytes frame.cmd.toList) →
        (∃ e, Base64.decode (Text.utf8 frame.cmd.toList) = .error e ∧
          Control.decode text = .error (.badPayload e)) ∧
        (Arrival.text text).request? = none ∧
        ∀ (s : Session) (later : List Arrival), s.IsListening →
          s.inbox = .text text :: later → s.stepRelay = some (s.withInbox later)) := by
  refine ⟨Control.decode_print_input, fun bytes => Control.decode_eq_input_iff hread hkind, ?_, ?_⟩
  · intro other otherFrame bytes hother hotherKind htext hothers
    have hpayload := (Control.decode_eq_input_iff hread hkind).mp htext
    have hotherPayload := (Control.decode_eq_input_iff hother hotherKind).mp hothers
    exact String.toList_inj.mp (hpayload.unique hotherPayload)
  · intro hpayload
    obtain ⟨e, hdecode, herror⟩ := Control.exists_badPayload hread hkind hpayload
    have hignored := isIgnored_of_decode_eq_error herror
    refine ⟨⟨e, hdecode, herror⟩, ?_, ?_⟩
    · rw [Arrival.request?, herror]
    · intro s later hlisten hinbox
      have hstep := s.stepRelay_of_isListening (.text text) later hlisten
      rw [s.receive_of_isIgnored hignored, ← hinbox, s.withInbox_inbox] at hstep
      exact hstep

/-- Unused bits that are set are refused, and with zeros in their place the payload is taken. -/
theorem payload_with_unused_bits :
    (∀ bytes, ¬ IsCanonical bytes "aGl=".toList) ∧ IsCanonical [104, 105] "aGk=".toList ∧
      Control.decode "[\"cmd\",0,0,\"aGk=\"]" = .ok (.input [104, 105]) ∧
      (∃ e, Control.decode "[\"cmd\",0,0,\"aGl=\"]" = .error (.badPayload e)) ∧
      (Arrival.text "[\"cmd\",0,0,\"aGl=\"]").request? = none := by
  have hread : Frame.read "[\"cmd\",0,0,\"aGk=\"]" = .ok ⟨"cmd", 0, 0, "aGk="⟩ := by
    decide +kernel
  have hreadOdd : Frame.read "[\"cmd\",0,0,\"aGl=\"]" = .ok ⟨"cmd", 0, 0, "aGl="⟩ := by
    decide +kernel
  have hcanonical : IsCanonical [104, 105] "aGk=".toList :=
    Base64.decode_utf8_eq_ok_iff.mp (by decide +kernel)
  have hodd : ∀ bytes, ¬ IsCanonical bytes "aGl=".toList := by
    intro bytes h
    have hrefused : Base64.decode (Text.utf8 "aGl=".toList) =
        .error (.invalidLastSymbol 2 108) := by decide +kernel
    have hdecode := Base64.decode_utf8_eq_ok_iff.mpr h
    rw [hrefused] at hdecode
    cases hdecode
  obtain ⟨-, hinput, -, -⟩ := payload_exact hread rfl
  obtain ⟨-, -, -, hrefused⟩ := payload_exact hreadOdd rfl
  obtain ⟨⟨e, -, herror⟩, hrequest, -⟩ := hrefused hodd
  exact ⟨hodd, hcanonical, (hinput _).mpr hcanonical, ⟨e, herror⟩, hrequest⟩

end RemoteShell
