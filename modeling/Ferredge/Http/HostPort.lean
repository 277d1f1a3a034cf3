import Ferredge.Http.Wire

/-!
# Hosts and ports

An endpoint is classified by its brackets and colons, once when it is parsed and once when its port
is supplied.  Both classifications lead to the same connect target.
-/

namespace Ferredge
namespace Http

/-- The text has a port separator behind a bracket. -/
abbrev HasBracketPort (text : String) : Prop := [']', ':'] <:+: text.toList

/-! ## The two classifications -/

theorem normalize_hasBracketPort {authority : String} (bracketed : isBracketed authority = true)
    (port : HasBracketPort authority) (defaultPort : Nat) :
    normalizeHostPort authority defaultPort = authority := by
  rw [normalizeHostPort, if_pos bracketed, if_pos port]

theorem normalize_one_colon {authority : String} (unbracketed : isBracketed authority = false)
    (one : colons authority = 1) (defaultPort : Nat) :
    normalizeHostPort authority defaultPort = authority := by
  rw [normalizeHostPort, if_neg (by simp [unbracketed]), one]
  rfl

theorem normalize_of_no_port {authority : String}
    (missing : if isBracketed authority then ¬ HasBracketPort authority else colons authority ≠ 1)
    (defaultPort : Nat) :
    normalizeHostPort authority defaultPort = formatHostPort authority defaultPort := by
  rw [normalizeHostPort]
  cases bracketed : isBracketed authority with
  | true =>
      rw [bracketed, if_pos rfl] at missing
      rw [if_pos rfl, if_neg missing]
  | false =>
      rw [bracketed, if_neg Bool.false_ne_true] at missing
      rw [if_neg Bool.false_ne_true]
      split
      · rfl
      · rename_i one
        exact absurd one missing
      · rfl

/-- The forms of an authority: a host, a host with its port, a bare IPv6 address, and a bracketed
literal without and with a port. -/
inductive AuthorityForm : String → Prop
  | host {host : String} : isBracketed host = false → colons host = 0 → AuthorityForm host
  | hostPort {host port : String} : isBracketed host = false → colons host = 0 →
      colons port = 0 → AuthorityForm (host ++ ":" ++ port)
  | bareIpv6 {address : String} : isBracketed address = false → 2 ≤ colons address →
      AuthorityForm address
  | literal (inner : String) : AuthorityForm ("[" ++ inner ++ "]")
  | literalPort (inner port : String) : AuthorityForm ("[" ++ inner ++ "]" ++ ":" ++ port)

/-- The text is one that the port helper leaves as it is because it has a port. -/
def Settled (target : String) : Prop :=
  (isBracketed target = true ∧ HasBracketPort target) ∨
    (isBracketed target = false ∧ colons target = 1)

theorem colons_append (left right : String) :
    colons (left ++ right) = colons left + colons right := by
  simp [colons]

theorem colons_toString (number : Nat) : colons (toString number) = 0 := by
  rw [colons, List.count_eq_zero]
  intro member
  have listed : ':' ∈ Nat.toDigits 10 number := by
    simpa [Nat.toList_repr] using member
  exact absurd (Nat.isDigit_of_mem_toDigits (by decide) (by decide) listed) (by decide)

theorem Settled.normalize_eq {target : String} (settled : Settled target) (defaultPort : Nat) :
    normalizeHostPort target defaultPort = target := by
  rcases settled with ⟨bracketed, port⟩ | ⟨unbracketed, one⟩
  · exact normalize_hasBracketPort bracketed port defaultPort
  · exact normalize_one_colon unbracketed one defaultPort

theorem isBracketed_hostPort (host port : String) :
    isBracketed (host ++ ":" ++ port) = isBracketed host := by
  rw [isBracketed, isBracketed, String.toList_append, String.toList_append]
  cases host.toList with
  | nil => rfl
  | cons first rest => rfl

theorem isBracketed_literal (inner : String) : isBracketed ("[" ++ inner ++ "]") = true := by
  simp [isBracketed]

theorem settled_hostPort {host port : String} (unbracketed : isBracketed host = false)
    (plain : colons host = 0) (number : colons port = 0) : Settled (host ++ ":" ++ port) := by
  refine .inr ⟨(isBracketed_hostPort host port).trans unbracketed, ?_⟩
  rw [colons_append, colons_append, plain, number]
  rfl

theorem settled_literalPort (inner port : String) :
    Settled ("[" ++ inner ++ "]" ++ ":" ++ port) := by
  refine .inl ⟨(isBracketed_hostPort _ port).trans (isBracketed_literal inner), ?_⟩
  exact ⟨'[' :: inner.toList, port.toList, by simp⟩

/-- Every form has a port once the default port is supplied. -/
theorem AuthorityForm.settled {authority : String} (form : AuthorityForm authority)
    (defaultPort : Nat) : Settled (normalizeHostPort authority defaultPort) := by
  cases form with
  | host unbracketed plain =>
      have missing : if isBracketed authority then ¬ HasBracketPort authority
          else colons authority ≠ 1 := by
        simp [unbracketed, plain]
      have kept : bracketIpv6Host authority = authority := by
        simp [bracketIpv6Host, plain]
      rw [normalize_of_no_port missing, formatHostPort, kept]
      exact settled_hostPort unbracketed plain (colons_toString defaultPort)
  | hostPort unbracketed plain number =>
      have settled := settled_hostPort unbracketed plain number
      rwa [settled.normalize_eq]
  | bareIpv6 unbracketed several =>
      have missing : if isBracketed authority then ¬ HasBracketPort authority
          else colons authority ≠ 1 := by
        rw [unbracketed, if_neg Bool.false_ne_true]
        omega
      have wrapped : bracketIpv6Host authority = "[" ++ authority ++ "]" := by
        simp [bracketIpv6Host, unbracketed]
        omega
      rw [normalize_of_no_port missing, formatHostPort, wrapped]
      exact settled_literalPort authority _
  | literal inner =>
      have bracketed := isBracketed_literal inner
      by_cases port : HasBracketPort ("[" ++ inner ++ "]")
      · have settled : Settled ("[" ++ inner ++ "]") := .inl ⟨bracketed, port⟩
        rwa [settled.normalize_eq]
      · have kept : bracketIpv6Host ("[" ++ inner ++ "]") = "[" ++ inner ++ "]" := by
          rw [bracketIpv6Host, bracketed]
          rfl
        rw [normalize_of_no_port (by rwa [if_pos bracketed]), formatHostPort, kept]
        exact settled_literalPort inner _
  | literalPort inner port =>
      have settled := settled_literalPort inner port
      rwa [settled.normalize_eq]

end Http
end Ferredge
