import Mathlib.Data.List.Induction
import Ferredge.History
import Ferredge.Mqtt.Session

/-!
# MQTT enhanced authentication

A broker authenticates a client by AUTH packets, each of which a registered handler answers with
one of its own.  The session keeps the authentication method that was named last, by either side,
and puts it into every answer that does not name one itself.
-/

namespace Ferredge

open History

/-- Reason code of an AUTH packet. -/
inductive AuthReasonCode where
  | success
  | continueAuthentication
  | reAuthenticate
  deriving DecidableEq

/-- A property of an AUTH packet. -/
inductive AuthProperty where
  | authenticationMethod (method : String)
  | authenticationData (data : Bytes)
  | reasonString (text : String)
  | userProperty (key value : String)
  | other
  deriving DecidableEq

/-- An AUTH packet, either way. -/
structure AuthPacket where
  reasonCode : Option AuthReasonCode
  props : Option (List AuthProperty)
  deriving DecidableEq

/-- Stage of MQTT v5 enhanced authentication exchange. -/
inductive MqttAuthStage where
  | connect
  | reauthenticate
  deriving DecidableEq

/-- MQTT v5 enhanced authentication reason. -/
inductive MqttAuthFlowReason where
  | success
  | continueAuthentication
  | reAuthenticate
  deriving DecidableEq

/-- Inbound MQTT v5 auth challenge presented to auth handler. -/
structure MqttAuthChallenge where
  stage : MqttAuthStage
  reason : MqttAuthFlowReason
  authenticationMethod : Option String
  authenticationData : Option Bytes
  reasonString : Option String
  userProperties : List (String × String)
  deriving DecidableEq

/-- Outbound MQTT v5 auth response returned by auth handler. -/
structure MqttAuthResponse where
  reason : MqttAuthFlowReason
  authenticationMethod : Option String
  authenticationData : Option Bytes
  reasonString : Option String
  userProperties : List (String × String)
  deriving DecidableEq

/-- What the packet library checks of an AUTH packet. -/
structure AuthLibrary where
  checkProperty : AuthProperty → Except String Unit
  build : AuthPacket → Except String Unit

namespace Mqtt.Auth

/-! ## Packets -/

def authFlowReasonFromV5 : AuthReasonCode → MqttAuthFlowReason
  | .success => .success
  | .continueAuthentication => .continueAuthentication
  | .reAuthenticate => .reAuthenticate

/-- The reason code of a response. -/
def reasonCodeOf : MqttAuthFlowReason → AuthReasonCode
  | .success => .success
  | .continueAuthentication => .continueAuthentication
  | .reAuthenticate => .reAuthenticate

/-- Takes one property of an AUTH packet into the challenge. -/
def noteProperty (challenge : MqttAuthChallenge) : AuthProperty → MqttAuthChallenge
  | .authenticationMethod method => { challenge with authenticationMethod := some method }
  | .authenticationData data => { challenge with authenticationData := some data }
  | .reasonString text => { challenge with reasonString := some text }
  | .userProperty key value =>
      { challenge with userProperties := challenge.userProperties ++ [(key, value)] }
  | .other => challenge

/-- The challenge of an AUTH packet in a session that goes by the given method.  The session then
goes by the method of the challenge. -/
def authChallengeFromAuth (method : Option String) (packet : AuthPacket) : MqttAuthChallenge :=
  (packet.props.getD []).foldl noteProperty
    { stage :=
        if packet.reasonCode = some .reAuthenticate then .reauthenticate else .connect
      reason := authFlowReasonFromV5 (packet.reasonCode.getD .success)
      authenticationMethod := method
      authenticationData := none
      reasonString := none
      userProperties := [] }

/-- The properties of an answer, in the order they are pushed. -/
def responseProps (method : Option String) (response : MqttAuthResponse) : List AuthProperty :=
  (method.map .authenticationMethod).toList ++
    (response.authenticationData.map .authenticationData).toList ++
    (response.reasonString.map .reasonString).toList ++
    response.userProperties.map fun pair => .userProperty pair.1 pair.2

/-- The answer to a challenge, and the method the session goes by afterwards.  A property that is
refused leaves the method as it was. -/
def buildAuthPacket (lib : AuthLibrary) (method : Option String) (response : MqttAuthResponse) :
    Except String AuthPacket × Option String :=
  let named := response.authenticationMethod.or method
  let packet : AuthPacket :=
    { reasonCode := some (reasonCodeOf response.reason)
      props := some (responseProps named response) }
  match (responseProps named response).mapM lib.checkProperty with
  | .error error => (.error error, method)
  | .ok _ => ((lib.build packet).map fun _ => packet, named)

/-! ## Exchanges -/

/-- A registered handler, which may keep a state of its own. -/
abbrev AuthHandler (H : Type*) :=
  H → MqttAuthChallenge → Except String (Option MqttAuthResponse) × H

/-- What an exchange over AUTH packets depends on and changes. -/
structure AuthState (H : Type*) where
  method : Option String
  handler : H

/-- One exchange: the broker's packet, the challenge it was taken for, the handler's response and
the packet that was sent for it. -/
structure AuthTurn where
  packet : AuthPacket
  challenge : MqttAuthChallenge
  response : Option MqttAuthResponse
  answer : Option AuthPacket

variable {H : Type*} (lib : AuthLibrary) (handler : Option (AuthHandler H))
  (checkedSend : AuthPacket → List AuthEvent)

/-- Answers one AUTH packet: how the exchange goes, what it leaves, and its record. -/
def respond (state : AuthState H) (packet : AuthPacket) :
    AuthExchange × AuthState H × AuthTurn :=
  let challenge := authChallengeFromAuth state.method packet
  let met := { state with method := challenge.authenticationMethod }
  match handler with
  | none => (.noHandler, met, ⟨packet, challenge, none, none⟩)
  | some handler =>
      match handler state.handler challenge with
      | (.error error, kept) =>
          (.refused error, { met with handler := kept }, ⟨packet, challenge, none, none⟩)
      | (.ok none, kept) =>
          (.noResponse, { met with handler := kept }, ⟨packet, challenge, none, none⟩)
      | (.ok (some response), kept) =>
          match buildAuthPacket lib challenge.authenticationMethod response with
          | (.error error, method) =>
              (.invalidResponse error, ⟨method, kept⟩, ⟨packet, challenge, some response, none⟩)
          | (.ok answer, method) =>
              (.answered (checkedSend answer), ⟨method, kept⟩,
                ⟨packet, challenge, some response, some answer⟩)

/-- Answers an AUTH packet on a session. -/
def processIncomingAuth {stack : MqttStack} (state : AuthState H) (packet : AuthPacket)
    (session : MqttClientSession stack) :
    Except String Unit × AuthState H × MqttClientSession stack :=
  let exchange := respond lib handler checkedSend state packet
  let processed := Mqtt.processIncomingAuth .v5Auth exchange.1 session
  (processed.1, exchange.2.1, processed.2)

/-! ## Dialogues -/

/-- What one exchange meets: the handler registered at the time, the broker's packet, and the events
with which the library sends an answer. -/
structure AuthInput (H : Type*) where
  handler : Option (AuthHandler H)
  packet : AuthPacket
  checkedSend : AuthPacket → List AuthEvent

/-- A session's authentication state and the exchanges that led to it. -/
structure AuthDialogue (H : Type*) where
  state : AuthState H
  history : List AuthTurn

def AuthDialogue.advance (dialogue : AuthDialogue H) (input : AuthInput H) : AuthDialogue H :=
  let exchange := respond lib input.handler input.checkedSend dialogue.state input.packet
  ⟨exchange.2.1, dialogue.history ++ [exchange.2.2]⟩

/-- The exchanges of a session whose CONNECT packet named the given method. -/
def dialogue (configured : Option String) (handler : H) (inputs : List (AuthInput H)) :
    AuthDialogue H :=
  inputs.foldl (AuthDialogue.advance lib) ⟨⟨configured, handler⟩, []⟩

/-- The AUTH packets of a session are answered one after the other. -/
def authenticate {stack : MqttStack} (configured : Option String) (handler : H)
    (inputs : List (AuthInput H)) (session : MqttClientSession stack) :
    AuthState H × MqttClientSession stack :=
  inputs.foldl (fun reached input =>
    (processIncomingAuth lib input.handler input.checkedSend reached.1 input.packet reached.2).2)
    (⟨configured, handler⟩, session)

namespace AuthProperty

def method? : AuthProperty → Option String
  | .authenticationMethod method => some method
  | _ => none

def data? : AuthProperty → Option Bytes
  | .authenticationData data => some data
  | _ => none

def reason? : AuthProperty → Option String
  | .reasonString text => some text
  | _ => none

def pair? : AuthProperty → Option (String × String)
  | .userProperty key value => some (key, value)
  | _ => none

end AuthProperty

/-- The authentication methods that a packet names. -/
def methodsNamed (packet : AuthPacket) : List String :=
  (packet.props.getD []).filterMap AuthProperty.method?

/-- The response's properties are accepted with the method it is sent with. -/
def isAccepted (method : Option String) (response : MqttAuthResponse) : Bool :=
  ((responseProps (response.authenticationMethod.or method) response).mapM lib.checkProperty).isOk

/-- The methods that one exchange names: the broker's, and the response's if its properties are
accepted. -/
def AuthTurn.names (turn : AuthTurn) : List String :=
  methodsNamed turn.packet ++
    (turn.response.filter (isAccepted lib turn.challenge.authenticationMethod)).toList.filterMap
      MqttAuthResponse.authenticationMethod

/-- The methods named so far, first by the CONNECT packet. -/
def namedSoFar (configured : Option String) (history : List AuthTurn) : List String :=
  configured.toList ++ history.flatMap (AuthTurn.names lib)

/-! ## Sessions -/

section Sessions

variable {stack : MqttStack}

/-- What a session does with an answer is to send it; without one it fails and is left alone. -/
theorem processIncomingAuth_eq (input : AuthInput H) (state : AuthState H)
    (session : MqttClientSession stack) :
    let turn := (respond lib input.handler input.checkedSend state input.packet).2.2
    let processed :=
      processIncomingAuth lib input.handler input.checkedSend state input.packet session
    match turn.answer with
    | some answer => (processed.1, processed.2.2) =
        processOutboundAuthEvents (input.checkedSend answer) session
    | none => processed.1.isOk = false ∧ processed.2.2 = session := by
  obtain ⟨handler, packet, checkedSend⟩ := input
  cases handler with
  | none => exact ⟨rfl, rfl⟩
  | some handler =>
      simp only [processIncomingAuth, respond]
      rcases handler state.handler (authChallengeFromAuth state.method packet) with
        ⟨error | _ | response, kept⟩
      · exact ⟨rfl, rfl⟩
      · exact ⟨rfl, rfl⟩
      · dsimp only
        rcases buildAuthPacket lib (authChallengeFromAuth state.method packet).authenticationMethod
          response with ⟨error | answer, method⟩
        · exact ⟨rfl, rfl⟩
        · rfl

/-- The dialogue is what the AUTH packets of a session come to. -/
theorem authenticate_state (configured : Option String) (handler : H)
    (inputs : List (AuthInput H)) (session : MqttClientSession stack) :
    (authenticate lib configured handler inputs session).1 =
      (dialogue lib configured handler inputs).state := by
  induction inputs using List.reverseRecOn with
  | nil => rfl
  | append_singleton inputs input ih =>
      have last : (authenticate lib configured handler (inputs ++ [input]) session).1 =
          (respond lib input.handler input.checkedSend
            (authenticate lib configured handler inputs session).1 input.packet).2.1 := by
        simp only [authenticate, List.foldl_append, List.foldl_cons, List.foldl_nil]
        rfl
      rw [last, ih, dialogue, dialogue, List.foldl_append]
      rfl

end Sessions

/-! ## Challenges -/

/-- Of each kind of property the last one counts, and all user properties do. -/
theorem foldl_noteProperty (props : List AuthProperty) (challenge : MqttAuthChallenge) :
    props.foldl noteProperty challenge =
      { challenge with
        authenticationMethod :=
          (challenge.authenticationMethod.toList ++ props.filterMap AuthProperty.method?).getLast?
        authenticationData :=
          (challenge.authenticationData.toList ++ props.filterMap AuthProperty.data?).getLast?
        reasonString :=
          (challenge.reasonString.toList ++ props.filterMap AuthProperty.reason?).getLast?
        userProperties := challenge.userProperties ++ props.filterMap AuthProperty.pair? } := by
  induction props generalizing challenge with
  | nil =>
      obtain ⟨stage, reason, method, data, text, pairs⟩ := challenge
      cases method <;> cases data <;> cases text <;> simp
  | cons property props ih =>
      rw [List.foldl_cons, ih]
      cases property <;>
        simp [noteProperty, AuthProperty.method?, AuthProperty.data?, AuthProperty.reason?,
          AuthProperty.pair?, List.filterMap_cons, List.getLast?_append, List.getLast?_cons]

theorem method_authChallengeFromAuth (method : Option String) (packet : AuthPacket) :
    (authChallengeFromAuth method packet).authenticationMethod =
      (method.toList ++ methodsNamed packet).getLast? := by
  rw [authChallengeFromAuth, foldl_noteProperty]
  rfl

/-! ## Answers -/

/-- What an accepted response is sent as. -/
theorem buildAuthPacket_eq_ok {method : Option String} {response : MqttAuthResponse}
    {answer : AuthPacket} (built : (buildAuthPacket lib method response).1 = .ok answer) :
    isAccepted lib method response = true ∧ answer =
      { reasonCode := some (reasonCodeOf response.reason)
        props := some (responseProps (response.authenticationMethod.or method) response) } := by
  simp only [buildAuthPacket, isAccepted] at built ⊢
  cases checked : (responseProps (response.authenticationMethod.or method) response).mapM
      lib.checkProperty with
  | error error => simp [checked] at built
  | ok done =>
      simp only [checked] at built
      obtain ⟨-, -, rfl⟩ := Fallible.map_eq_ok.mp built
      exact ⟨rfl, rfl⟩

theorem buildAuthPacket_method (method : Option String) (response : MqttAuthResponse) :
    (buildAuthPacket lib method response).2 =
      if isAccepted lib method response then response.authenticationMethod.or method
      else method := by
  simp only [buildAuthPacket, isAccepted]
  split
  · rename_i error refused
    simp [refused, Except.isOk, Except.toBool]
  · rename_i done accepted
    simp [accepted, Except.isOk, Except.toBool]

/-- An answer names the one method that it is sent with. -/
theorem methods_responseProps (method : Option String) (response : MqttAuthResponse) :
    (responseProps method response).filterMap AuthProperty.method? = method.toList := by
  have pairs : response.userProperties.filterMap
      (AuthProperty.method? ∘ fun pair => AuthProperty.userProperty pair.1 pair.2) = [] :=
    List.filterMap_eq_nil_iff.mpr fun _ _ => rfl
  obtain ⟨reason, named, data, text, properties⟩ := response
  rw [responseProps, List.filterMap_append, List.filterMap_map, pairs]
  cases method <;> cases data <;> cases text <;> rfl

/-! ## Runs -/

/-- What one exchange makes of the methods named before it: the challenge goes by the last of them
or of the broker's, and an answer by the last of all, as the session does from then on. -/
structure Follows (configured : Option String) (before : List AuthTurn) (turn : AuthTurn) :
    Prop where
  challenge : turn.challenge = authChallengeFromAuth (namedSoFar lib configured before).getLast?
    turn.packet
  answer : ∀ answer, turn.answer = some answer → ∃ response, turn.response = some response ∧
    answer =
      { reasonCode := some (reasonCodeOf response.reason)
        props := some (responseProps (namedSoFar lib configured (before ++ [turn])).getLast?
          response) }

variable {lib} {configured : Option String} {before : List AuthTurn}

theorem namedSoFar_snoc (turn : AuthTurn) :
    namedSoFar lib configured (before ++ [turn]) =
      namedSoFar lib configured before ++ turn.names lib := by
  simp [namedSoFar]

/-- The method named last is that of the response if it names one and is accepted, and else that of
the challenge. -/
theorem getLast?_namedSoFar_snoc {turn : AuthTurn}
    (challenged : turn.challenge.authenticationMethod =
      (namedSoFar lib configured before ++ methodsNamed turn.packet).getLast?) :
    (namedSoFar lib configured (before ++ [turn])).getLast? =
      ((turn.response.filter (isAccepted lib turn.challenge.authenticationMethod)).bind
        MqttAuthResponse.authenticationMethod).or turn.challenge.authenticationMethod := by
  rw [namedSoFar_snoc, AuthTurn.names, ← List.append_assoc, List.getLast?_append, challenged]
  cases turn.response.filter (isAccepted lib
      (namedSoFar lib configured before ++ methodsNamed turn.packet).getLast?) with
  | none => rfl
  | some response => cases named : response.authenticationMethod <;> simp [named]

/-- One exchange follows the methods named before it, and leaves the last one named. -/
theorem respond_follows (input : AuthInput H) (state : AuthState H)
    (method : state.method = (namedSoFar lib configured before).getLast?) :
    let exchange := respond lib input.handler input.checkedSend state input.packet
    exchange.2.2.packet = input.packet ∧ Follows lib configured before exchange.2.2 ∧
      exchange.2.1.method =
        (namedSoFar lib configured (before ++ [exchange.2.2])).getLast? := by
  have challenged : (authChallengeFromAuth state.method input.packet).authenticationMethod =
      (namedSoFar lib configured before ++ methodsNamed input.packet).getLast? := by
    rw [method_authChallengeFromAuth, method, List.getLast?_append, List.getLast?_append]
    cases (namedSoFar lib configured before).getLast? <;> rfl
  have unanswered (response : Option MqttAuthResponse)
      (nothing : response.filter (isAccepted lib
        (authChallengeFromAuth state.method input.packet).authenticationMethod) = none) :
      (authChallengeFromAuth state.method input.packet).authenticationMethod =
        (namedSoFar lib configured (before ++ [⟨input.packet,
          authChallengeFromAuth state.method input.packet, response, none⟩])).getLast? := by
    rw [getLast?_namedSoFar_snoc challenged, nothing]
    rfl
  intro exchange
  simp only [exchange, respond]
  split
  · exact ⟨rfl, ⟨by rw [method], nofun⟩, unanswered none rfl⟩
  · split
    · exact ⟨rfl, ⟨by rw [method], nofun⟩, unanswered none rfl⟩
    · exact ⟨rfl, ⟨by rw [method], nofun⟩, unanswered none rfl⟩
    · rename_i response kept responded
      have last (answer : Option AuthPacket) :
          (buildAuthPacket lib (authChallengeFromAuth state.method
              input.packet).authenticationMethod response).2 =
            (namedSoFar lib configured (before ++ [⟨input.packet,
              authChallengeFromAuth state.method input.packet, some response,
              answer⟩])).getLast? := by
        rw [buildAuthPacket_method, getLast?_namedSoFar_snoc challenged]
        cases accepted : isAccepted lib
          (authChallengeFromAuth state.method input.packet).authenticationMethod response <;>
          simp [Option.filter, accepted]
      split
      · rename_i error left built
        refine ⟨rfl, ⟨by rw [method], nofun⟩, ?_⟩
        rw [← last none, built]
      · rename_i answer left built
        have named := last (some answer)
        rw [built] at named
        refine ⟨rfl, ⟨by rw [method], ?_⟩, named⟩
        rintro sent ⟨⟩
        obtain ⟨accepted, same⟩ := buildAuthPacket_eq_ok lib (congrArg Prod.fst built)
        refine ⟨response, rfl, ?_⟩
        have used := buildAuthPacket_method lib
          (authChallengeFromAuth state.method input.packet).authenticationMethod response
        rw [built, if_pos accepted] at used
        rw [← named, same]
        exact congrArg (fun method => AuthPacket.mk _ (some (responseProps method response)))
          used.symm

/-- Every exchange of a session follows the methods named before it, whatever the broker sends and
the handlers respond, and every answer names the method that was named last. -/
theorem dialogue_follows (lib : AuthLibrary) (configured : Option String) (handler : H)
    (inputs : List (AuthInput H)) :
    let reached := dialogue lib configured handler inputs
    reached.history.map AuthTurn.packet = inputs.map AuthInput.packet ∧
      reached.state.method = (namedSoFar lib configured reached.history).getLast? ∧
      Always (fun before turn => Follows lib configured before turn ∧
        ∀ answer, turn.answer = some answer → methodsNamed answer =
          (namedSoFar lib configured (before ++ [turn])).getLast?.toList) reached.history := by
  intro reached
  induction inputs using List.reverseRecOn with
  | nil => exact ⟨rfl, by cases configured <;> rfl, always_nil⟩
  | append_singleton inputs input ih =>
      obtain ⟨packets, method, always⟩ := ih
      have next : dialogue lib configured handler (inputs ++ [input]) =
          (dialogue lib configured handler inputs).advance lib input := by
        simp [dialogue]
      obtain ⟨packet, follows, last⟩ := respond_follows input _ method
      simp only [reached, next, AuthDialogue.advance]
      refine ⟨by simp [packets, packet], last, always_snoc.mpr ⟨always, follows, ?_⟩⟩
      intro answer sent
      obtain ⟨response, -, rfl⟩ := follows.answer answer sent
      exact methods_responseProps _ response

end Mqtt.Auth
end Ferredge
