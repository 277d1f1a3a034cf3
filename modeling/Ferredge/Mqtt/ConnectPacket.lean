import Ferredge.Mqtt.Convert

/-!
# CONNECT packets

The builder of the CONNECT packet, with one branch for each protocol version.  A packet is the
record of what the builder of the packet library is given, and the library's checks are a parameter.
-/

namespace Ferredge

open Fallible

/-- Optional credential set for the broker connection. -/
structure MqttAuthConfig where
  username : Option String
  password : Option String

/-- MQTT last-will publish configuration. -/
structure MqttWillConfig where
  topic : String
  payload : Bytes
  delivery : Option DeliveryGuarantee
  retain : Bool
  delayIntervalSecs : Option UInt32
  payloadFormat : Option MqttPayloadFormat
  messageExpiryIntervalSecs : Option UInt32
  contentType : Option String
  responseTopic : Option String
  correlationData : Option Bytes
  userProperties : List (String × String)

/-- MQTT v5 CONNECT property set requested during negotiation. -/
structure MqttConnectProperties where
  receiveMaximum : Option UInt16
  maximumPacketSize : Option UInt32
  topicAliasMaximum : Option UInt16
  requestResponseInformation : Option Bool
  requestProblemInformation : Option Bool
  sessionExpiryIntervalSecs : Option UInt32
  authenticationMethod : Option String
  authenticationData : Option Bytes
  userProperties : List (String × String)

/-- The endpoint configuration with what a CONNECT packet is built from. -/
structure MqttConnectConfig extends MqttEndpointConfig where
  clientId : String
  auth : Option MqttAuthConfig
  cleanStart : Bool
  sessionExpirySecs : Option UInt32
  connectProperties : MqttConnectProperties
  will : Option MqttWillConfig

/-- MQTT v5 properties of a CONNECT packet and its will. -/
inductive ConnectProperty where
  | sessionExpiryInterval (seconds : UInt32)
  | receiveMaximum (value : UInt16)
  | maximumPacketSize (value : UInt32)
  | topicAliasMaximum (value : UInt16)
  | requestProblemInformation (flag : UInt8)
  | requestResponseInformation (flag : UInt8)
  | authenticationMethod (name : String)
  | authenticationData (data : Bytes)
  | willDelayInterval (seconds : UInt32)
  | payloadFormatIndicator (format : MqttPayloadFormat)
  | messageExpiryInterval (seconds : UInt32)
  | contentType (contentType : String)
  | responseTopic (topic : String)
  | correlationData (data : Bytes)
  | userProperty (key value : String)
  deriving DecidableEq

/-- The message a broker publishes for a client that is lost. -/
structure WillMessage where
  topic : String
  payload : Bytes
  qos : Qos
  retain : Bool
  deriving DecidableEq

/-- Contents of a CONNECT packet; a version without properties has none. -/
structure ConnectPacket where
  version : MqttProtocolVersion
  clientId : String
  cleanStart : Bool
  keepAlive : UInt16
  props : List ConnectProperty
  will : Option WillMessage
  willProps : List ConnectProperty
  userName : Option String
  password : Option Bytes
  deriving DecidableEq

/-- The packet library's checks of the parts of a CONNECT packet. -/
structure ConnectLibrary where
  property : ConnectProperty → Except String Unit
  clientId : String → Except String Unit
  willMessage : WillMessage → Except String Unit
  userName : String → Except String Unit
  password : Bytes → Except String Unit
  /-- Whether the builder finishes the packet. -/
  build : ConnectPacket → Except String Unit

namespace Mqtt

variable (lib : ConnectLibrary)

/-- Checks the properties in the order they are pushed. -/
def pushProperties (props : List ConnectProperty) : Except String (List ConnectProperty) :=
  props.mapM fun property => (lib.property property).map fun _ => property

def userProperties (pairs : List (String × String)) : List ConnectProperty :=
  pairs.map fun pair => .userProperty pair.1 pair.2

/-- Properties of a CONNECT packet, in the order they are pushed. -/
def v5ConnectProps (config : MqttConnectConfig) : List ConnectProperty :=
  let asked := config.connectProperties
  ((asked.sessionExpiryIntervalSecs.or config.sessionExpirySecs).map
      ConnectProperty.sessionExpiryInterval).toList ++
    (asked.receiveMaximum.map ConnectProperty.receiveMaximum).toList ++
    (asked.maximumPacketSize.map ConnectProperty.maximumPacketSize).toList ++
    (asked.topicAliasMaximum.map ConnectProperty.topicAliasMaximum).toList ++
    (asked.requestProblemInformation.map fun flag =>
      ConnectProperty.requestProblemInformation flag.toUInt8).toList ++
    (asked.requestResponseInformation.map fun flag =>
      ConnectProperty.requestResponseInformation flag.toUInt8).toList ++
    (asked.authenticationMethod.map ConnectProperty.authenticationMethod).toList ++
    (asked.authenticationData.map ConnectProperty.authenticationData).toList ++
    userProperties asked.userProperties

/-- Properties of a will, in the order they are pushed. -/
def v5WillProps (will : MqttWillConfig) : List ConnectProperty :=
  (will.delayIntervalSecs.map ConnectProperty.willDelayInterval).toList ++
    (will.payloadFormat.map ConnectProperty.payloadFormatIndicator).toList ++
    (will.messageExpiryIntervalSecs.map ConnectProperty.messageExpiryInterval).toList ++
    (will.contentType.map ConnectProperty.contentType).toList ++
    (will.responseTopic.map ConnectProperty.responseTopic).toList ++
    (will.correlationData.map ConnectProperty.correlationData).toList ++
    userProperties will.userProperties

def willMessage (will : MqttWillConfig) : WillMessage :=
  { topic := will.topic
    payload := will.payload
    qos := qosFromDelivery will.delivery
    retain := will.retain }

/-- A builder that has been given what every CONNECT packet has. -/
def connectBuilder (config : MqttConnectConfig) (version : MqttProtocolVersion) :
    Except String ConnectPacket := do
  lib.clientId config.clientId
  return {
    version
    clientId := config.clientId
    cleanStart := config.cleanStart
    keepAlive := config.keepaliveSecs.getD 0
    props := []
    will := none
    willProps := []
    userName := none
    password := none }

/-- Gives the will to the builder, if there is one. -/
def setWill (builder : ConnectPacket) : Option MqttWillConfig → Except String ConnectPacket
  | none => .ok builder
  | some will => do
      lib.willMessage (willMessage will)
      let willProps ← pushProperties lib (v5WillProps will)
      return { builder with will := some (willMessage will), willProps }

def setUserName (builder : ConnectPacket) : Option String → Except String ConnectPacket
  | none => .ok builder
  | some username => do
      lib.userName username
      return { builder with userName := some username }

def setPassword (builder : ConnectPacket) : Option String → Except String ConnectPacket
  | none => .ok builder
  | some password => do
      lib.password password.toUTF8.data.toList
      return { builder with password := some password.toUTF8.data.toList }

/-- Gives the credentials to the builder, if there are any. -/
def setAuth (builder : ConnectPacket) : Option MqttAuthConfig → Except String ConnectPacket
  | none => .ok builder
  | some auth => do
      let builder ← setUserName lib builder auth.username
      setPassword lib builder auth.password

def finishConnect (packet : ConnectPacket) : Except String ConnectPacket :=
  (lib.build packet).map fun _ => packet

def buildConnectPacket (config : MqttConnectConfig) : Except String ConnectPacket :=
  match config.preferredProtocolVersion with
  | .v5_0 => do
      let props ← pushProperties lib (v5ConnectProps config)
      let builder ← connectBuilder lib config .v5_0
      let builder ← setWill lib { builder with props } config.will
      let builder ← setAuth lib builder config.auth
      finishConnect lib builder
  | .v3_1_1 => do
      let builder ← connectBuilder lib config .v3_1_1
      let builder ← setAuth lib builder config.auth
      finishConnect lib builder

/-! ## What a packet carries -/

/-- The packet carries the configured items that every version can express. -/
structure Carries (config : MqttConnectConfig) (packet : ConnectPacket) : Prop where
  clientId : packet.clientId = config.clientId
  cleanStart : packet.cleanStart = config.cleanStart
  keepAlive : ∀ seconds, config.keepaliveSecs = some seconds → packet.keepAlive = seconds
  userName : ∀ auth, config.auth = some auth →
    ∀ username, auth.username = some username → packet.userName = some username
  password : ∀ auth, config.auth = some auth →
    ∀ password, auth.password = some password →
      packet.password = some password.toUTF8.data.toList
  will : ∀ will, config.will = some will → ∃ message, packet.will = some message ∧
    message.topic = will.topic ∧ message.payload = will.payload ∧
    message.qos = qosFromDelivery will.delivery ∧ message.retain = will.retain

variable {lib} {config : MqttConnectConfig} {builder packet : ConnectPacket}

theorem connectBuilder_eq_ok {version : MqttProtocolVersion}
    (begun : connectBuilder lib config version = .ok builder) :
    builder.clientId = config.clientId ∧ builder.cleanStart = config.cleanStart ∧
      builder.keepAlive = config.keepaliveSecs.getD 0 ∧ builder.will = none := by
  obtain ⟨-, -, returned⟩ := bind_eq_ok.mp begun
  cases returned
  exact ⟨rfl, rfl, rfl, rfl⟩

theorem setWill_eq_ok {will : Option MqttWillConfig}
    (given : setWill lib builder will = .ok packet) :
    ∃ willProps, packet =
      { builder with will := (will.map willMessage).or builder.will, willProps } := by
  cases will with
  | none =>
      cases given
      exact ⟨builder.willProps, rfl⟩
  | some will =>
      obtain ⟨-, -, checked⟩ := bind_eq_ok.mp given
      obtain ⟨willProps, -, returned⟩ := bind_eq_ok.mp checked
      cases returned
      exact ⟨willProps, rfl⟩

theorem setUserName_eq_ok {username : Option String}
    (given : setUserName lib builder username = .ok packet) :
    packet = { builder with userName := username.or builder.userName } := by
  cases username with
  | none =>
      cases given
      rfl
  | some username =>
      obtain ⟨-, -, returned⟩ := bind_eq_ok.mp given
      cases returned
      rfl

theorem setPassword_eq_ok {password : Option String}
    (given : setPassword lib builder password = .ok packet) :
    packet =
      { builder with
        password := (password.map fun value => value.toUTF8.data.toList).or builder.password } := by
  cases password with
  | none =>
      cases given
      rfl
  | some password =>
      obtain ⟨-, -, returned⟩ := bind_eq_ok.mp given
      cases returned
      rfl

/-- The credentials are set and the rest of the builder is left as it is. -/
theorem setAuth_eq_ok {auth : Option MqttAuthConfig}
    (given : setAuth lib builder auth = .ok packet) :
    ∃ userName password, packet = { builder with userName, password } ∧
      ∀ present, auth = some present →
        (∀ username, present.username = some username → userName = some username) ∧
        ∀ secret, present.password = some secret →
          password = some secret.toUTF8.data.toList := by
  cases auth with
  | none =>
      cases given
      exact ⟨builder.userName, builder.password, rfl, fun _ absent => nomatch absent⟩
  | some auth =>
      obtain ⟨named, userName, passwordGiven⟩ := bind_eq_ok.mp given
      obtain rfl := setUserName_eq_ok userName
      obtain rfl := setPassword_eq_ok passwordGiven
      refine ⟨_, _, rfl, ?_⟩
      rintro present ⟨⟩
      constructor
      · intro username set
        rw [set, Option.some_or]
      · intro secret set
        rw [set, Option.map_some, Option.some_or]

theorem finishConnect_eq_ok {finished : ConnectPacket}
    (built : finishConnect lib packet = .ok finished) : finished = packet := by
  obtain ⟨-, -, same⟩ := map_eq_ok.mp built
  exact same.symm

/-- A finished packet has what the builder was given, and a will only under version 5. -/
theorem buildConnectPacket_eq_ok (built : buildConnectPacket lib config = .ok packet) :
    (packet.clientId = config.clientId ∧ packet.cleanStart = config.cleanStart ∧
      packet.keepAlive = config.keepaliveSecs.getD 0) ∧
    packet.will =
      (if config.preferredProtocolVersion = .v5_0 then config.will.map willMessage else none) ∧
    ∀ auth, config.auth = some auth →
      (∀ username, auth.username = some username → packet.userName = some username) ∧
      ∀ secret, auth.password = some secret →
        packet.password = some secret.toUTF8.data.toList := by
  rw [buildConnectPacket] at built
  cases version : config.preferredProtocolVersion with
  | v5_0 =>
      rw [version] at built
      obtain ⟨props, -, pushed⟩ := bind_eq_ok.mp built
      obtain ⟨builder, begun, rest⟩ := bind_eq_ok.mp pushed
      obtain ⟨willed, willSet, authRest⟩ := bind_eq_ok.mp rest
      obtain ⟨done, authSet, finished⟩ := bind_eq_ok.mp authRest
      obtain ⟨clientId, cleanStart, keepAlive, noWill⟩ := connectBuilder_eq_ok begun
      obtain ⟨willProps, rfl⟩ := setWill_eq_ok willSet
      obtain ⟨userName, password, rfl, credentials⟩ := setAuth_eq_ok authSet
      obtain rfl := finishConnect_eq_ok finished
      refine ⟨⟨clientId, cleanStart, keepAlive⟩, ?_, credentials⟩
      rw [if_pos rfl]
      exact (congrArg _ noWill).trans Option.or_none
  | v3_1_1 =>
      rw [version] at built
      obtain ⟨builder, begun, rest⟩ := bind_eq_ok.mp built
      obtain ⟨done, authSet, finished⟩ := bind_eq_ok.mp rest
      obtain ⟨clientId, cleanStart, keepAlive, noWill⟩ := connectBuilder_eq_ok begun
      obtain ⟨userName, password, rfl, credentials⟩ := setAuth_eq_ok authSet
      obtain rfl := finishConnect_eq_ok finished
      exact ⟨⟨clientId, cleanStart, keepAlive⟩, noWill, credentials⟩

/-- A packet carries its whole configuration under version 5 or without a will, and only then. -/
theorem carries_iff (built : buildConnectPacket lib config = .ok packet) :
    Carries config packet ↔
      config.preferredProtocolVersion = .v5_0 ∨ config.will = none := by
  obtain ⟨⟨clientId, cleanStart, keepAlive⟩, will, credentials⟩ := buildConnectPacket_eq_ok built
  constructor
  · intro carries
    by_contra neither
    obtain ⟨older, configured⟩ := not_or.mp neither
    obtain ⟨lost, present⟩ := Option.ne_none_iff_exists'.mp configured
    obtain ⟨message, carried, -⟩ := carries.will lost present
    rw [will, if_neg older] at carried
    cases carried
  · intro expressible
    refine ⟨clientId, cleanStart, ?_, fun auth set => (credentials auth set).1,
      fun auth set => (credentials auth set).2, ?_⟩
    · intro seconds set
      rw [keepAlive, set, Option.getD_some]
    · intro configured present
      have newer : config.preferredProtocolVersion = .v5_0 := by
        obtain newer | absent := expressible
        · exact newer
        · rw [absent] at present
          cases present
      rw [if_pos newer, present] at will
      exact ⟨willMessage configured, will, rfl, rfl, rfl, rfl⟩

/-- A packet library that accepts everything. -/
def permissiveConnectLibrary : ConnectLibrary :=
  { property := fun _ => .ok ()
    clientId := fun _ => .ok ()
    willMessage := fun _ => .ok ()
    userName := fun _ => .ok ()
    password := fun _ => .ok ()
    build := fun _ => .ok () }

/-- A client of the given version that leaves a message when it is lost. -/
def clientWithWill (version : MqttProtocolVersion) : MqttConnectConfig :=
  { keepaliveSecs := some 30
    reconnect := .default
    supportedVersions := [version]
    clientId := "client-with-will"
    auth := none
    cleanStart := true
    sessionExpirySecs := none
    connectProperties :=
      { receiveMaximum := none
        maximumPacketSize := none
        topicAliasMaximum := none
        requestResponseInformation := none
        requestProblemInformation := none
        sessionExpiryIntervalSecs := none
        authenticationMethod := none
        authenticationData := none
        userProperties := [] }
    will := some
      { topic := "status/offline"
        payload := [0]
        delivery := some .atLeastOnce
        retain := true
        delayIntervalSecs := none
        payloadFormat := none
        messageExpiryIntervalSecs := none
        contentType := none
        responseTopic := none
        correlationData := none
        userProperties := [] } }

theorem clientWithWill_carried :
    ∃ packet, buildConnectPacket permissiveConnectLibrary (clientWithWill .v5_0) = .ok packet ∧
      Carries (clientWithWill .v5_0) packet := by
  have built : buildConnectPacket permissiveConnectLibrary (clientWithWill .v5_0) = .ok _ := rfl
  exact ⟨_, built, (carries_iff built).mpr (.inl rfl)⟩

/-- Under version 3.1.1 the packet is built without the will. -/
theorem clientWithWill_forgotten :
    ∃ packet, buildConnectPacket permissiveConnectLibrary (clientWithWill .v3_1_1) = .ok packet ∧
      packet.will = none ∧ ¬Carries (clientWithWill .v3_1_1) packet := by
  refine ⟨_, rfl, rfl, ?_⟩
  intro carries
  obtain ⟨message, carried, -⟩ := carries.will _ rfl
  cases carried

end Mqtt
end Ferredge
