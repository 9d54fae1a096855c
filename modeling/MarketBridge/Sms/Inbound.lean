import Mathlib.Data.List.Dedup
import MarketBridge.Relational.KeyedList
import MarketBridge.Schema.Rows
import MarketBridge.Sms.Commands

/-!
# Inbound messages

`handleInboundSms` finds the account of a sender by scanning the users in whatever order
the database has them, and a draft by the last letters of its id.
-/

namespace MarketBridge

open Relational

/-! ## Rows -/

inductive Role where
  | seller
  | buyer
  | inspector
  | truckOwner
  | advertiser
  | admin
deriving DecidableEq, Repr

/-- The languages that titles of messages are translated to. -/
inductive SmsLanguage where
  | en
  | am
  | om
deriving DecidableEq, Repr

/-- The columns of `User` that text messages are about. -/
structure SmsUser where
  id : Id
  phone : Option String := none
  roles : List Role := [.buyer, .seller]
  smsNotificationsEnabled : Bool := false
  preferredLanguage : SmsLanguage := .en
deriving DecidableEq, Repr

def SmsUser.mobile (u : SmsUser) : Option String :=
  u.phone.bind normalizeEthiopianPhone

/-- A row of `Listing` with what it says about the goods. -/
structure ProduceListing extends Listing where
  title : Option String := none
  cropType : Option String := none
  unit : String
  location : String
  description : Option String := none
deriving DecidableEq, Repr

/-- A confirmation that was sent: `ACTIVATE code` is to publish the listing. -/
structure Confirmation where
  userId : Id
  listingId : String
  code : String
deriving DecidableEq, Repr

structure SmsServer where
  now : Nat := 0
  nextUserId : Id := 0
  /-- In the order of a scan. -/
  users : List SmsUser := []
  /-- The newest first. -/
  listings : List (String × ProduceListing) := []
  /-- The log of the confirmations. -/
  confirmations : List Confirmation := []
deriving DecidableEq, Repr

/-! ## Replies -/

inductive SmsReply where
  | text (text : String)
  /-- `Draft listing saved: ...`, with the end of the pickup window and the code. -/
  | saved (command : ListCommand) (windowEnd : Nat) (code : String)
  /-- `Listing ... is now live`, with the end of a pickup window that was refreshed. -/
  | live (code : String) (cropType : String) (refreshed : Option Nat)
deriving DecidableEq, Repr

structure InboundResult where
  reply : Option SmsReply
  «to» : Option String := none
  reason : Option String := none
deriving DecidableEq, Repr

/-! ## Lookups -/

/-- `findUserByPhone`, over the users in the order of the scan. -/
def findUserByPhone (users : List SmsUser) (phone : String) : Option SmsUser :=
  ((users.filter fun u => u.phone.isSome).take 10000).find? fun u => u.mobile = some phone

def ProduceListing.isDraftOf (row : ProduceListing) (userId : Id) : Bool :=
  row.sellerId = userId && row.status = .draft && row.category = .agricultural

/-- The candidates of `ACTIVATE`. -/
def draftsOf (listings : List (String × ProduceListing)) (userId : Id) :
    List (String × ProduceListing) :=
  (listings.filter fun e => e.2.isDraftOf userId).take 200

def setListing (listings : List (String × ProduceListing)) (id : String) (row : ProduceListing) :
    List (String × ProduceListing) :=
  updateKey Prod.fst id (fun _ => (id, row)) listings

section

variable (toUpperCase : String -> String) (pickupWindowMs : Nat)

def shortCode (listingId : String) : String :=
  toUpperCase (String.ofList (listingId.toList.drop (listingId.length - 6)))

/-! ## Commands -/

/-- The row that `LIST` creates; prices have two decimals. -/
def ListCommand.draft (command : ListCommand) (sellerId : Id) (now : Nat) : ProduceListing :=
  { sellerId := sellerId
    category := .agricultural
    cropType := some command.cropType
    quantity := command.quantity
    availableQuantity := command.quantity
    unit := command.unit
    askingPrice := toDecimal command.askingPrice
    location := command.location
    status := .draft
    description := some "Created via SMS"
    pickupWindowStart := some now
    pickupWindowEnd := some (now + pickupWindowMs) }

/--
`handleListCommand`; `newId` is the id that the database makes up.  A price of more than
sixteen digits does not fit its column.
-/
def handleListCommand (s : SmsServer) (user : SmsUser) (tokens : List String) (newId : String) :
    Except String (SmsReply × SmsServer) :=
  if .seller ∉ user.roles then
    .ok (.text ("Your MarketBridge account is not registered as a seller, " ++
      "so this number cannot list produce."), s)
  else
    match parseListCommand toUpperCase tokens with
    | .error e => .ok (.text ("Could not create listing: " ++ e), s)
    | .ok command =>
        if newId ∈ s.listings.map Prod.fst then
          .error "P2002"
        else if 10 ^ 16 ≤ toDecimal command.askingPrice then
          .error "P2020"
        else
          let code := shortCode toUpperCase newId
          .ok (.saved command (s.now + pickupWindowMs) code,
            { s with
              listings := (newId, command.draft pickupWindowMs user.id s.now) :: s.listings
              confirmations := s.confirmations ++
                [{ userId := user.id
                   listingId := newId
                   code := code }] })

/-- The row that `ACTIVATE` writes. -/
def ProduceListing.activated (row : ProduceListing) (now : Nat) : ProduceListing :=
  if row.pickupWindowEnd.getD 0 ≤ now then
    { row with
      status := .active
      pickupWindowStart := some now
      pickupWindowEnd := some (now + pickupWindowMs) }
  else
    { row with status := .active }

/-- `handleActivateCommand`. -/
def handleActivateCommand (s : SmsServer) (user : SmsUser) (tokens : List String) :
    SmsReply × SmsServer :=
  let code := toUpperCase (tokens.headD "")
  if code = "" then
    (.text "ACTIVATE needs a code, e.g. ACTIVATE 3F9A21", s)
  else
    match (draftsOf s.listings user.id).find? fun e => shortCode toUpperCase e.1 = code with
    | none =>
        (.text ("No draft listing found with code " ++ code ++
          ". It may already be published, or belong to a different account."), s)
    | some (id, row) =>
        (.live code (if row.cropType.getD "" = "" then "produce" else row.cropType.getD "")
            (if row.pickupWindowEnd.getD 0 ≤ s.now then some (s.now + pickupWindowMs) else none),
          { s with listings := setListing s.listings id (row.activated pickupWindowMs s.now) })

/-- `handleInboundSms`. -/
def handleInboundSms (s : SmsServer) (sender text newId : String) :
    Except String (InboundResult × SmsServer) :=
  match normalizeEthiopianPhone sender with
  | none =>
      .ok ({ reply := none
             reason := some "invalid_from_number" }, s)
  | some phone =>
      let tokens := words text
      match findUserByPhone s.users phone with
      | none =>
          .ok ({ reply := some (.text ("This number is not registered on MarketBridge. " ++
                   "Sign up in the app first, then text from this number."))
                 «to» := some phone }, s)
      | some user =>
          if toUpperCase (tokens.headD "") = "LIST" then do
            let result ← handleListCommand toUpperCase pickupWindowMs s user tokens.tail newId
            .ok ({ reply := some result.1
                   «to» := some phone }, result.2)
          else if toUpperCase (tokens.headD "") = "ACTIVATE" then
            let result := handleActivateCommand toUpperCase pickupWindowMs s user tokens.tail
            .ok ({ reply := some result.1
                   «to» := some phone }, result.2)
          else
            .ok ({ reply := some (.text ("Unrecognized command. Text LIST <crop> <quantity> " ++
                     "<unit> <price> <location> to create a draft listing, or ACTIVATE <code> " ++
                     "to publish one."))
                   «to» := some phone }, s)

end

/-! ## Accounts -/

/-- The phone number that a registration stores. -/
def registeredPhone : Option String -> Except String (Option String)
  | none => .ok none
  | some phone =>
      if phone = "" then
        .ok (some "")
      else if (trimText phone).length ≤ 40 then
        .ok (some (trimText phone))
      else
        .error "Validation failed"

def registeredRoles (roles : List Role) : Except String (List Role) :=
  if roles = [] then
    .ok [.buyer, .seller]
  else if .admin ∈ roles then
    .error "Invalid role: ADMIN"
  else
    .ok roles.dedup

/-- `POST /register`, up to the checks of the other fields. -/
def register (s : SmsServer) (phone : Option String) (roles : List Role) :
    Except String SmsServer := do
  let phone ← registeredPhone phone
  let roles ← registeredRoles roles
  .ok
    { s with
      nextUserId := s.nextUserId + 1
      users := s.users ++
        [{ id := s.nextUserId
           phone := phone
           roles := roles }] }

/-- The body of `PATCH /me/preferences`; a field that is missing is `none`. -/
structure Preferences where
  smsNotificationsEnabled : Option Bool := none
  preferredLanguage : Option SmsLanguage := none
  phone : Option (Option String) := none

/-- `phone || null`, after it was trimmed. -/
def storedPhone (phone : Option String) : Option String :=
  (phone.map trimText).filter (· ≠ "")

/-- The row after `PATCH /me/preferences`. -/
def SmsUser.updated (u : SmsUser) (body : Preferences) : SmsUser :=
  { u with
    smsNotificationsEnabled := body.smsNotificationsEnabled.getD u.smsNotificationsEnabled
    preferredLanguage := body.preferredLanguage.getD u.preferredLanguage
    phone :=
      match body.phone with
      | none => u.phone
      | some phone => storedPhone phone }

def SmsUser.effectivePhone (u : SmsUser) (body : Preferences) : Option String :=
  match body.phone with
  | none => u.phone
  | some phone => phone.map trimText

/-- `PATCH /me/preferences` of a user. -/
def updatePreferences (s : SmsServer) (userId : Id) (body : Preferences) :
    Except String SmsServer :=
  match s.users.find? fun u => u.id = userId with
  | none => .error "Authentication required"
  | some u =>
      if body.smsNotificationsEnabled = some true &&
          ((u.effectivePhone body).bind normalizeEthiopianPhone).isNone then
        .error "A valid Ethiopian phone number is required to enable SMS notifications."
      else
        .ok { s with users := updateKey SmsUser.id userId (·.updated body) s.users }

end MarketBridge
