import HermesMesh.Platform

/-!
# The gates of the viewers

The routes `/ws`, `/api/state` and `/api/security` ask `_view_allowed`; the raw WebSocket
server has a gate of its own, `process_request`, which sees the query only.  Without a
view token the first gate serves loopback peers and the second one everybody who reaches
its port.
-/

namespace HermesMesh.Server

open Python

/-- `K2_VIEW_TOKEN` and `K2_BIND_HOST`. -/
structure ViewerConfig where
  viewToken : PyStr
  bindHost : PyStr

/-- What the gates look at: the peer, the token of the query as it is decoded, and the
headers `X-View-Token`, `Authorization` and `X-Mesh-Token`. -/
structure ViewerRequest where
  remote : Option PyStr
  queryToken : Option PyStr
  viewHeader : Option PyStr
  authorization : Option PyStr
  meshHeader : Option PyStr

/-- `secrets.compare_digest` of texts, which have to be ASCII. -/
def compareDigest (left right : PyStr) : Except Fault Bool :=
  if (left ++ right).any (fun c => decide (128 ≤ c.val)) then .error .typeError
  else .ok (left == right)

/-- `left or right` -/
def textOr : Option PyStr → Option PyStr → Option PyStr
  | some (c :: rest), _ => some (c :: rest)
  | _, right => right

/-- `_bearer` -/
def bearer (py : Platform) (request : ViewerRequest) : Option PyStr :=
  let value := request.authorization.getD []
  if (lit "bearer ").isPrefixOf (py.unicode.lower value) then some (strip (value.drop 7))
  else request.meshHeader

/-- `_view_authorized` -/
def viewAuthorized (py : Platform) (config : ViewerConfig) (request : ViewerRequest) :
    Except Fault Bool :=
  if config.viewToken.isEmpty then .ok false
  else
    let supplied := textOr (textOr request.viewHeader request.queryToken) (bearer py request)
    compareDigest (supplied.getD []) config.viewToken

/-- The peers of `_loopback_only`. -/
def isLoopback (peer : Option PyStr) : Bool :=
  [some (lit "127.0.0.1"), some (lit "::1"), some (lit "localhost")].contains peer ||
    (lit "127.").isPrefixOf (peer.getD [])

/-- `_view_allowed` -/
def viewAllowed (py : Platform) (config : ViewerConfig) (request : ViewerRequest) :
    Except Fault Bool := do
  if ← viewAuthorized py config request then return true
  else if config.viewToken.isEmpty then return isLoopback request.remote
  else return false

/-- `process_request`: whether the handshake proceeds. -/
def processRequest (config : ViewerConfig) (queryToken : Option PyStr) : Except Fault Bool :=
  if config.viewToken.isEmpty then .ok true
  else compareDigest (queryToken.getD []) config.viewToken

/-- A request with a token in its query and no other credential. -/
def tokenRequest (remote queryToken : Option PyStr) : ViewerRequest :=
  ⟨remote, queryToken, none, none, none⟩

section Gates

variable {py : Platform} {config : ViewerConfig}

theorem bearer_tokenRequest (remote queryToken : Option PyStr) :
    bearer py (tokenRequest remote queryToken) = none := by
  have empty : py.unicode.lower [] = [] := py.unicode.lower_ascii [] (by simp)
  have noPrefix : (lit "bearer ").isPrefixOf (py.unicode.lower []) = false := by
    rw [empty]
    rfl
  unfold bearer tokenRequest
  simp only [Option.getD_none, noPrefix, Bool.false_eq_true, if_false]

theorem supplied_tokenRequest (queryToken : Option PyStr) :
    (textOr (textOr none queryToken) none).getD [] = queryToken.getD [] := by
  cases queryToken with
  | none => rfl
  | some token => cases token <;> rfl

/-- With a view token both gates compare it with the token of the query. -/
theorem viewAllowed_of_token (configured : config.viewToken ≠ []) (remote queryToken : Option PyStr) :
    viewAllowed py config (tokenRequest remote queryToken) = processRequest config queryToken := by
  have isSet : config.viewToken.isEmpty = false := by simpa using configured
  unfold viewAllowed viewAuthorized processRequest
  rw [bearer_tokenRequest, isSet]
  simp only [Bool.false_eq_true, if_false]
  rw [tokenRequest, supplied_tokenRequest]
  cases compareDigest (queryToken.getD []) config.viewToken with
  | error fault => rfl
  | ok same => cases same <;> rfl

/-- Without one the first gate asks for a loopback peer. -/
theorem viewAllowed_of_none (unset : config.viewToken = []) (request : ViewerRequest) :
    viewAllowed py config request = .ok (isLoopback request.remote) := by
  have isUnset : config.viewToken.isEmpty = true := by simp [unset]
  unfold viewAllowed viewAuthorized
  rw [isUnset]
  rfl

/-- A handshake that proceeds is one that the other routes would allow exactly if a view
token is configured or the peer is a loopback one. -/
theorem handshake_allowed_iff (remote queryToken : Option PyStr) :
    (processRequest config queryToken = .ok true →
        viewAllowed py config (tokenRequest remote queryToken) = .ok true) ↔
      config.viewToken ≠ [] ∨ isLoopback remote = true := by
  by_cases configured : config.viewToken = []
  · have proceeds : processRequest config queryToken = .ok true := by
      rw [processRequest, configured]
      rfl
    rw [viewAllowed_of_none configured, tokenRequest, Except.ok.injEq]
    constructor
    · exact fun allowed => .inr (allowed proceeds)
    · exact fun condition _ => condition.resolve_left (fun isSet => isSet configured)
  · rw [viewAllowed_of_token configured]
    exact iff_of_true id (.inl configured)

/-- Without a token, bound to all addresses, the handshake of a peer from outside proceeds
while the other routes refuse it. -/
theorem outside_peer_proceeds :
    processRequest ⟨[], lit "0.0.0.0"⟩ none = .ok true ∧
      ¬(processRequest ⟨[], lit "0.0.0.0"⟩ none = .ok true →
        viewAllowed .plain ⟨[], lit "0.0.0.0"⟩ (tokenRequest (some (lit "203.0.113.7")) none) =
          .ok true) := by
  have outside : isLoopback (some (lit "203.0.113.7")) = false := by decide
  refine ⟨rfl, fun allowed => ?_⟩
  have served := allowed rfl
  rw [viewAllowed_of_none rfl, tokenRequest, outside] at served
  cases served

end Gates

end HermesMesh.Server
