import RushSocket.Auth
import RushSocket.Protocol.Channels
import RushSocket.Webhook
import RushSocket.Websocket.SocketId

namespace RushSocket.Auth

open Data Protocol Websocket

/-! What the secret of an app signs: texts for channels, for signins, for
requests and for webhooks.  No text serves two purposes. -/

def requestText (method path queryParams : String) : String :=
  method ++ "\n" ++ path ++ "\n" ++ queryParams

section

variable {sign : String → String → String} {appKey appSecret secret : String}
  {socketId socket channel place userData auth method path queryParams : String}
  {channelData placeData : Option String}

theorem signHttpRequest_eq :
    signHttpRequest sign secret method path queryParams =
      sign secret (requestText method path queryParams) := rfl

def dataTail : Option String → List Char
  | some data => ':' :: data.toList
  | none => []

theorem toList_channelText :
    (channelText socketId channel channelData).toList =
      socketId.toList ++ ':' :: (channel.toList ++ dataTail channelData) := by
  cases channelData with
  | none => simp [channelText, dataTail]
  | some data => simp [channelText, dataTail]

theorem toList_signinText :
    (signinText socketId userData).toList =
      socketId.toList ++ ':' :: (':' :: ("user::".toList ++ userData.toList)) := by
  simp [signinText]

theorem colon_notMem_socketId (valid : IsSocketId socketId) : ':' ∉ socketId.toList := by
  intro member
  rcases valid.mem member with digit | dot
  · exact absurd digit (by decide)
  · exact absurd dot (by decide)

theorem dataTail_inj (named : isValidChannelName channel = true)
    (namedToo : isValidChannelName place = true)
    (text : channel.toList ++ dataTail channelData =
      place.toList ++ dataTail placeData) :
    channel = place ∧ channelData = placeData := by
  have plain := colon_notMem_channel named
  have plainToo := colon_notMem_channel namedToo
  cases channelData with
  | none =>
      rw [dataTail, List.append_nil] at text
      cases placeData with
      | none =>
          rw [dataTail, List.append_nil] at text
          exact ⟨String.toList_inj.mp text, rfl⟩
      | some data =>
          refine absurd ?_ plain
          rw [text]
          exact List.mem_append_right _ List.mem_cons_self
  | some data =>
      cases placeData with
      | none =>
          rw [dataTail, dataTail, List.append_nil] at text
          refine absurd ?_ plainToo
          rw [← text]
          exact List.mem_append_right _ List.mem_cons_self
      | some other =>
          obtain ⟨same, rest⟩ := Text.append_mark_inj plain plainToo text
          rw [String.toList_inj.mp same, String.toList_inj.mp rest]
          exact ⟨rfl, rfl⟩

/-- The first colon ends the socket id, the second one the channel. -/
theorem channelText_inj (valid : IsSocketId socketId) (validToo : IsSocketId socket)
    (named : isValidChannelName channel = true)
    (namedToo : isValidChannelName place = true)
    (text : channelText socketId channel channelData =
      channelText socket place placeData) :
    socketId = socket ∧ channel = place ∧ channelData = placeData := by
  rw [← String.toList_inj, toList_channelText, toList_channelText] at text
  obtain ⟨same, rest⟩ := Text.append_mark_inj (colon_notMem_socketId valid)
    (colon_notMem_socketId validToo) text
  exact ⟨String.toList_inj.mp same, dataTail_inj named namedToo rest⟩

/-- After its first colon a signin has a second one where a channel has its
name. -/
theorem channelText_ne_signinText (valid : IsSocketId socketId)
    (validToo : IsSocketId socket) (named : isValidChannelName channel = true) :
    channelText socketId channel channelData ≠ signinText socket userData := by
  intro text
  rw [← String.toList_inj, toList_channelText, toList_signinText] at text
  obtain ⟨_, rest⟩ := Text.append_mark_inj (colon_notMem_socketId valid)
    (colon_notMem_socketId validToo) text
  cases shape : channel.toList with
  | nil => exact channel_ne_nil named shape
  | cons char others =>
      rw [shape, List.cons_append] at rest
      refine colon_notMem_channel named ?_
      rw [shape, (List.cons.inj rest).1]
      exact List.mem_cons_self

/-! Texts that begin with a digit are neither requests nor webhooks. -/

def StartsWithDigit (text : String) : Prop :=
  ∃ char rest, text.toList = char :: rest ∧ char.isDigit = true

theorem startsWithDigit_channelText (valid : IsSocketId socketId) :
    StartsWithDigit (channelText socketId channel channelData) := by
  obtain ⟨char, rest, shape, digit⟩ := valid.head
  rw [StartsWithDigit, toList_channelText, shape]
  exact ⟨char, _, rfl, digit⟩

theorem startsWithDigit_signinText (valid : IsSocketId socketId) :
    StartsWithDigit (signinText socketId userData) := by
  obtain ⟨char, rest, shape, digit⟩ := valid.head
  rw [StartsWithDigit, toList_signinText, shape]
  exact ⟨char, _, rfl, digit⟩

theorem StartsWithDigit.ne_requestText {text : String} (digits : StartsWithDigit text)
    (known : method = "GET" ∨ method = "POST") :
    text ≠ requestText method path queryParams := by
  obtain ⟨char, rest, shape, digit⟩ := digits
  rintro rfl
  rcases known with rfl | rfl
  · simp [requestText] at shape
    rw [← shape.1] at digit
    exact absurd digit (by decide)
  · simp [requestText] at shape
    rw [← shape.1] at digit
    exact absurd digit (by decide)

theorem StartsWithDigit.ne_body {text : String} (digits : StartsWithDigit text)
    (payload : WebhookPayload) : text ≠ payload.body := by
  obtain ⟨char, rest, shape, digit⟩ := digits
  rintro rfl
  simp [WebhookPayload.body, WebhookPayload.json, Json.print, Json.tokens, Json.Token.text] at shape
  rw [← shape.1] at digit
  exact absurd digit (by decide)

end

/-- A token of a channel is one of no other channel and of no signin, and what a
token signs is no request and no webhook. -/
theorem tokens_separate (sign : String → String → String)
    (injective : ∀ secret, Function.Injective (sign secret))
    (appKey appSecret : String) {socketId channel : String}
    (channelData : Option String) (valid : IsSocketId socketId)
    (named : isValidChannelName channel = true) :
    (∀ auth, verifyChannelAuth sign appKey appSecret socketId channel channelData
        auth = true →
      (∀ socket place placeData, IsSocketId socket → isValidChannelName place = true →
        verifyChannelAuth sign appKey appSecret socket place placeData auth = true →
          socket = socketId ∧ place = channel ∧ placeData = channelData) ∧
      ∀ socket userData, IsSocketId socket →
        verifySigninAuth sign appKey appSecret socket userData auth = false) ∧
    (∀ userData method path queryParams, method = "GET" ∨ method = "POST" →
      channelText socketId channel channelData ≠ requestText method path queryParams ∧
        signinText socketId userData ≠ requestText method path queryParams) ∧
    ∀ userData payload,
      channelText socketId channel channelData ≠ WebhookPayload.body payload ∧
        signinText socketId userData ≠ WebhookPayload.body payload := by
  have digits := @startsWithDigit_channelText socketId channel channelData valid
  have digitsToo := fun userData => @startsWithDigit_signinText socketId userData valid
  refine ⟨fun auth accepted => ⟨?_, ?_⟩, ?_, ?_⟩
  · intro socket place placeData validToo namedToo again
    rw [verifyChannelAuth_iff] at accepted again
    have text := injective appSecret (String.append_right_inj _ |>.mp
      (again.symm.trans accepted))
    exact channelText_inj validToo valid namedToo named text
  · intro socket userData validToo
    rw [Bool.eq_false_iff]
    intro again
    rw [verifyChannelAuth_iff] at accepted
    rw [verifySigninAuth_iff] at again
    have text := injective appSecret (String.append_right_inj _ |>.mp
      (accepted.symm.trans again))
    exact channelText_ne_signinText valid validToo named text
  · intro userData method path queryParams known
    exact ⟨digits.ne_requestText known, (digitsToo userData).ne_requestText known⟩
  · intro userData payload
    exact ⟨digits.ne_body payload, (digitsToo userData).ne_body payload⟩

def roomToken : String :=
  "app-key:eac53072418f048540e99a8514ba31f8f84de872c812c2511c014ab7da4cd25f"

def tokenSign (_secret : String) : String → String :=
  signTable [("1234.5678:private-room",
    "eac53072418f048540e99a8514ba31f8f84de872c812c2511c014ab7da4cd25f")]

theorem tokens_separate_room :
    verifyChannelAuth tokenSign "app-key" "app-secret" "1234.5678" "private-room" none
        roomToken = true ∧
      verifySigninAuth tokenSign "app-key" "app-secret" "1234.5678" "{}" roomToken =
        false := by
  have accepted : verifyChannelAuth tokenSign "app-key" "app-secret" "1234.5678"
      "private-room" none roomToken = true := by decide
  have socket : IsSocketId "1234.5678" := isSocketId_generate 1234 5678
  have named : isValidChannelName "private-room" = true := by decide
  have separate := tokens_separate tokenSign
    (fun _ => signTable_injective (by decide) (by decide)) "app-key" "app-secret" none
    socket named
  exact ⟨accepted, (separate.1 roomToken accepted).2 "1234.5678" "{}" socket⟩

end RushSocket.Auth
