import NodeConsole.Proofs.Handshake.Reply
import NodeConsole.Proofs.Host.RoundTrip
import NodeConsole.Proofs.PeerId
import NodeConsole.Proofs.Text.Lines

/-! What of a peer is said in one line. -/
namespace NodeConsole
open Text (Bytes OneLine oneLine_ofList oneLine_nat)

theorem PeerId.oneLine_text (id : PeerId) : OneLine id.text := by
  have hu : ∀ n < 16, (Text.hexDigit n).toUpper ≠ '\n' := by decide
  rw [text, oneLine_ofList]
  intro h
  obtain ⟨b, -, hb⟩ := List.mem_flatMap.mp h
  obtain ⟨n, hn, he⟩ := mem_upperHexByte hb
  exact hu n hn he.symm

theorem AtomId.oneLine_text (id : AtomId) : OneLine id.text :=
  oneLine_ofList.mpr (Text.newline_not_mem_escaped _)

namespace Host

variable {default : UInt16} {h : Host} {s : String}

theorem oneLine_text (hn : OneLine h.name) : OneLine h.text := by
  have hd : '\n' ∉ digits h.port := Text.newline_not_mem_toDigits (by decide)
  rw [OneLine] at hn ⊢
  rw [text_eq]
  split
  · simp [hn, hd]
  · simp [hn, hd]

/-- An address is as much in one line as the text it was read from. -/
theorem oneLine_of_read (hs : OneLine s) (hh : ofText? default s = some h) : OneLine h.text := by
  obtain ⟨name, port, hf, rfl⟩ := ofText_eq_some_iff.mp hh
  refine oneLine_text (oneLine_ofList.mpr fun hm => hs ?_)
  exact Text.mem_of_mem_trim (hf.mem hm)

end Host

theorem Atom.ReadFault.oneLine_message (f : Atom.ReadFault) : OneLine f.message := by
  cases f with
  | early => decide
  | tooLarge id => exact .append (.append (by decide) id.oneLine_text) (by decide)

namespace Greeter

variable {g : Greeter} {host : Host} {reply : Bytes} {ends : Bool} {a : Atom} {f : Failure}

theorem oneLine_protocol {reason : String} (hr : OneLine reason) :
    OneLine (Failure.protocol reason).message :=
  .append (by decide) hr

theorem Refusal.oneLine_message (hr : Refusal a f) : OneLine f.message := by
  cases hr with
  | quit =>
    exact oneLine_protocol (.append (.append (by decide) (oneLine_nat a.quitCode)) (by decide))
  | nameless => exact oneLine_protocol (by decide)
  | unexpected =>
    exact oneLine_protocol (.append (.append (by decide) a.id.oneLine_text) (by decide))

theorem oneLine_replyFailure (hh : OneLine host.text) (ends : Bool) (fault : Atom.ReadFault) :
    OneLine (g.replyFailure host ends fault).message := by
  cases fault with
  | early =>
    cases ends with
    | true => exact Atom.ReadFault.early.oneLine_message
    | false =>
      have hw : OneLine s!"reply from {host.text}" := .append (by decide) hh
      exact .append (.append (.append hw (by decide)) (oneLine_nat g.limit.millis)) (by decide)
  | tooLarge id => exact (Atom.ReadFault.tooLarge id).oneLine_message

/-- What a handshake fails with, whatever the peer sends. -/
theorem oneLine_failure (hh : OneLine host.text)
    (hf : (g.converse host reply ends).outcome = .error f) : OneLine f.message := by
  unfold converse at hf
  cases hr : (Atom.read reply).outcome with
  | error fault =>
    simp only [hr, Except.error.injEq] at hf
    exact hf ▸ oneLine_replyFailure hh ends fault
  | ok a =>
    simp only [hr] at hf
    exact (interpret_error_iff.mp hf).oneLine_message

end Greeter
end NodeConsole
