import TorqueFinder.Extraction.ClaudeClient

/-! The exceptions of the upstream SDK, and the arm of the classifier each of them reaches. -/

namespace TorqueFinder

open PyText

/-- The exception classes of the SDK that a call may raise, with their common ancestors. -/
inductive SdkClass where
  | apiError
  | apiConnectionError
  | apiTimeoutError
  | apiResponseValidationError
  | apiStatusError
  | badRequestError
  | authenticationError
  | permissionDeniedError
  | notFoundError
  | conflictError
  | requestTooLargeError
  | unprocessableEntityError
  | rateLimitError
  | internalServerError
  | serviceUnavailableError
  | overloadedError
  | deadlineExceededError
  deriving DecidableEq

/-- The class an exception class extends. -/
def SdkClass.parent : SdkClass → Option SdkClass
  | .apiError => none
  | .apiConnectionError | .apiResponseValidationError | .apiStatusError => some .apiError
  | .apiTimeoutError => some .apiConnectionError
  -- Every class for a status is a sibling of the others.
  | _ => some .apiStatusError

/-- `isinstance`, as far as the hierarchy is deep. -/
def SdkClass.isInstance (cls ancestor : SdkClass) : Bool :=
  -- No chain of the SDK's classes is longer than three.
  cls == ancestor || cls.parent == some ancestor ||
    (cls.parent.bind SdkClass.parent) == some ancestor

/-- The name of an exception class. -/
def SdkClass.name : SdkClass → String
  -- The names are the ones that Python's __name__ gives.
  | .apiError => "APIError"
  | .apiConnectionError => "APIConnectionError"
  | .apiTimeoutError => "APITimeoutError"
  | .apiResponseValidationError => "APIResponseValidationError"
  | .apiStatusError => "APIStatusError"
  | .badRequestError => "BadRequestError"
  | .authenticationError => "AuthenticationError"
  | .permissionDeniedError => "PermissionDeniedError"
  | .notFoundError => "NotFoundError"
  | .conflictError => "ConflictError"
  | .requestTooLargeError => "RequestTooLargeError"
  | .unprocessableEntityError => "UnprocessableEntityError"
  | .rateLimitError => "RateLimitError"
  | .internalServerError => "InternalServerError"
  | .serviceUnavailableError => "ServiceUnavailableError"
  | .overloadedError => "OverloadedError"
  | .deadlineExceededError => "DeadlineExceededError"

/-- The statuses for which the plain client has a class of their own. -/
def statusClasses : List (Int × SdkClass) :=
  -- Other clients of the SDK also tell 503 and 504 apart; the plain one does not.
  [(400, .badRequestError), (401, .authenticationError), (403, .permissionDeniedError),
    (404, .notFoundError), (409, .conflictError), (413, .requestTooLargeError),
    (422, .unprocessableEntityError), (429, .rateLimitError), (529, .overloadedError)]

/-- What the plain client raises after a response with a status, or without any response. -/
structure PlainClient (raises : Option Int → SdkClass → Prop) : Prop where
  silent : ∀ cls, raises none cls → cls = .apiConnectionError ∨ cls = .apiTimeoutError
  dedicated : ∀ status own, (status, own) ∈ statusClasses →
    ∀ cls, raises (some status) cls → cls = own
  /-- The server errors without a class of their own share one, 503 and 504 among them. -/
  server : ∀ status, 500 ≤ status → status ≠ 529 →
    ∀ cls, raises (some status) cls → cls = .internalServerError
  /-- Any other status has no class; an answer that cannot be read has one. -/
  other : ∀ status, status < 500 → statusClasses.lookup status = none →
    ∀ cls, raises (some status) cls → cls = .apiStatusError ∨ cls = .apiResponseValidationError

/-- The response a failed call got. -/
structure ApiResponse where
  status : Int
  /-- Its retry delay header, when there is one. -/
  retryAfter : Option String
  deriving DecidableEq

/-- A failed call, as a client that raises such exceptions reports it. -/
structure SdkFailure (raises : Option Int → SdkClass → Prop) where
  sdkClass : SdkClass
  response : Option ApiResponse
  requestId : Option String
  message : String
  raised : raises (response.map ApiResponse.status) sdkClass

/-- The arm of the classifier an exception class reaches. -/
def SdkClass.errorClass (cls : SdkClass) : ApiErrorClass :=
  -- The arms are tried in this order, and an arm takes every subclass of what it names.
  if cls.isInstance .overloadedError then .overloaded
  else if cls.isInstance .rateLimitError then .rateLimit
  else if cls.isInstance .apiConnectionError then .connection
  else if cls.isInstance .authenticationError then .authentication
  else if cls.isInstance .permissionDeniedError then .permissionDenied
  else if cls.isInstance .requestTooLargeError then .requestTooLarge
  else if cls.isInstance .badRequestError then .badRequest
  else if cls.isInstance .internalServerError then .internalServer
  else .other

variable {raises : Option Int → SdkClass → Prop}

/-- The failed call as the classifier sees it. -/
def SdkFailure.toApiError (failure : SdkFailure raises) : ApiError where
  -- A failure without a response has neither a status nor a header.
  errorClass := failure.sdkClass.errorClass
  typeName := failure.sdkClass.name
  statusCode := failure.response.map ApiResponse.status
  requestId := failure.requestId
  retryAfterHeader := failure.response.bind ApiResponse.retryAfter
  message := failure.message

/-- Failures that a retry may cure: no response, a rate limit, or a fault of the server. -/
def SdkFailure.IsTransient (failure : SdkFailure raises) : Prop :=
  ∀ response ∈ failure.response, response.status = 429 ∨ 500 ≤ response.status

/-- Failures that an operator must fix: credentials, permissions, size, or an exhausted balance. -/
def SdkFailure.IsOperatorFault (failure : SdkFailure raises) : Prop :=
  -- These statuses do not go away by waiting.
  ∃ response ∈ failure.response,
    response.status = 401 ∨ response.status = 403 ∨ response.status = 413 ∨
      (response.status = 400 ∧ OccursIn creditBalanceMarker (lower failure.message))

/-- The delay to advertise: the header of a limit or an overload, unless it is empty. -/
def SdkFailure.retryDelay (failure : SdkFailure raises) : String :=
  -- Only a limit or an overload passes on what the server asks.
  match failure.response with
  | some response =>
    if response.status = 429 ∨ response.status = 529 then
      (response.retryAfter.filter (· ≠ "")).getD defaultRetryAfterSeconds
    else defaultRetryAfterSeconds
  | none => defaultRetryAfterSeconds

/-- The delay to advertise is never empty. -/
theorem retryDelay_ne_empty (failure : SdkFailure raises) : failure.retryDelay ≠ "" := by
  have default : defaultRetryAfterSeconds ≠ "" := by decide
  unfold SdkFailure.retryDelay
  split
  · rename_i response _
    split
    · -- An empty header counts as a missing one.
      cases header : response.retryAfter.filter (· ≠ "") with
      | none => exact default
      | some delay => simpa using (Option.filter_eq_some_iff.mp header).2
    · exact default
  · exact default

section Arms

variable {failure : SdkFailure raises} {response : ApiResponse}

/-- A failure without a response reaches the arm for connections. -/
theorem errorClass_of_none (client : PlainClient raises) (silent : failure.response = none) :
    failure.sdkClass.errorClass = .connection := by
  -- Both classes without a response are caught by the same arm.
  have raised := failure.raised
  rw [silent] at raised
  rcases client.silent _ raised with same | same <;> rw [same] <;> rfl

/-- A server error other than an overload reaches the arm for server errors. -/
theorem errorClass_of_serverError (client : PlainClient raises)
    (answered : failure.response = some response) (server : 500 ≤ response.status)
    (loaded : response.status ≠ 529) : failure.sdkClass.errorClass = .internalServer := by
  -- From 500 on there is one class for all but an overload.
  have raised := failure.raised
  rw [answered] at raised
  rw [client.server _ server loaded _ raised]
  rfl

/-- Any other response without a class of its own reaches no arm. -/
theorem errorClass_of_otherStatus (client : PlainClient raises)
    (answered : failure.response = some response) (below : response.status < 500)
    (shared : statusClasses.lookup response.status = none) :
    failure.sdkClass.errorClass = .other := by
  -- A status without a class of its own raises one of the general classes.
  have raised := failure.raised
  rw [answered] at raised
  rcases client.other _ below shared _ raised with same | same <;> rw [same] <;> rfl

/-- The default delay is not empty. -/
private theorem default_kept :
    ((some defaultRetryAfterSeconds).filter (· ≠ "")).getD defaultRetryAfterSeconds =
      defaultRetryAfterSeconds := by
  decide

/-- What the classifier makes of the failed calls of one arm. -/
private theorem classify_of_errorClass {arm : ApiErrorClass}
    (reached : failure.sdkClass.errorClass = arm) :
    classifyUpstreamError failure.toApiError =
      classifyUpstreamError { failure.toApiError with errorClass := arm } := by
  -- The class enters only through the arm that it reaches.
  rw [← reached]
  rfl

/-- A response whose status has a class is classified by the arm of that class. -/
private theorem classify_of_dedicated {status : Int} {own : SdkClass} {arm : ApiErrorClass}
    (client : PlainClient raises) (answered : failure.response = some response)
    (same : response.status = status) (dedicated : (status, own) ∈ statusClasses)
    (reached : own.errorClass = arm) :
    classifyUpstreamError failure.toApiError =
      classifyUpstreamError { failure.toApiError with errorClass := arm } := by
  -- The class of the table is the only one that the client raises.
  have raised := failure.raised
  rw [answered, Option.map_some, same] at raised
  refine classify_of_errorClass ?_
  rw [client.dedicated status own dedicated _ raised, reached]

/-- A transient failure is classified as one, with the delay to advertise. -/
theorem classify_of_transient (client : PlainClient raises) (transient : failure.IsTransient) :
    ∃ message status requestId retryAfter,
      classifyUpstreamError failure.toApiError =
          .upstreamUnavailable message status requestId retryAfter ∧
        (retryAfter.filter (· ≠ "")).getD defaultRetryAfterSeconds = failure.retryDelay := by
  -- No response, a limit, an overload and the shared class for server errors in turn.
  cases answered : failure.response with
  | none =>
    have default : failure.retryDelay = defaultRetryAfterSeconds := by
      unfold SdkFailure.retryDelay
      rw [answered]
    rw [classify_of_errorClass (errorClass_of_none client answered), default]
    exact ⟨_, _, _, _, rfl, default_kept⟩
  | some response =>
    have header : failure.toApiError.retryAfterHeader = response.retryAfter := by
      simp [SdkFailure.toApiError, answered]
    -- The header of a limit is passed on as it is.
    rcases transient response answered with limited | server
    · have listed : ((429 : Int), SdkClass.rateLimitError) ∈ statusClasses := by decide
      rw [classify_of_dedicated client answered limited listed rfl]
      refine ⟨_, _, _, _, rfl, ?_⟩
      simp [SdkFailure.retryDelay, answered, limited, header]
    · by_cases overloaded : response.status = 529
      · have listed : ((529 : Int), SdkClass.overloadedError) ∈ statusClasses := by decide
        rw [classify_of_dedicated client answered overloaded listed rfl]
        refine ⟨_, _, _, _, rfl, ?_⟩
        simp [SdkFailure.retryDelay, answered, overloaded, header]
      · -- Every other server error shares one class, and its header is not read.
        have unlimited : ¬ (response.status = 429 ∨ response.status = 529) := by omega
        have default : failure.retryDelay = defaultRetryAfterSeconds := by
          unfold SdkFailure.retryDelay
          rw [answered]
          exact if_neg unlimited
        rw [classify_of_errorClass
          (errorClass_of_serverError client answered server overloaded), default]
        exact ⟨_, _, _, _, rfl, default_kept⟩

/-- A failure an operator must fix is classified as one. -/
theorem classify_of_operatorFault (client : PlainClient raises)
    (fault : failure.IsOperatorFault) :
    ∃ message status requestId, classifyUpstreamError failure.toApiError =
      .upstreamUnauthorized message status requestId := by
  -- Each of the four statuses has a class, and an arm, of its own.
  obtain ⟨response, answered, kind⟩ := fault
  rcases kind with unauthenticated | forbidden | large | ⟨rejected, marked⟩
  · have listed : ((401 : Int), SdkClass.authenticationError) ∈ statusClasses := by decide
    rw [classify_of_dedicated client answered unauthenticated listed rfl]
    exact ⟨_, _, _, rfl⟩
  · have listed : ((403 : Int), SdkClass.permissionDeniedError) ∈ statusClasses := by decide
    rw [classify_of_dedicated client answered forbidden listed rfl]
    exact ⟨_, _, _, rfl⟩
  · have listed : ((413 : Int), SdkClass.requestTooLargeError) ∈ statusClasses := by decide
    rw [classify_of_dedicated client answered large listed rfl]
    exact ⟨_, _, _, rfl⟩
  · -- A rejected request is for the operator only when the balance is named.
    have listed : ((400 : Int), SdkClass.badRequestError) ∈ statusClasses := by decide
    rw [classify_of_dedicated client answered rejected listed rfl]
    exact ⟨_, _, _, if_pos marked⟩

/-- Every failure that is neither transient nor for an operator is an unusable answer. -/
theorem classify_of_neither (client : PlainClient raises) (lasting : ¬ failure.IsTransient)
    (ours : ¬ failure.IsOperatorFault) :
    ∃ message, classifyUpstreamError failure.toApiError = .malformed message := by
  obtain ⟨response, answered, status⟩ : ∃ response, failure.response = some response ∧
      ¬ (response.status = 429 ∨ 500 ≤ response.status) := by
    simpa [SdkFailure.IsTransient] using lasting
  have faultless := fun kind => ours ⟨response, answered, kind⟩
  by_cases rejected : response.status = 400
  · -- The arm for rejected requests, without the text about the balance.
    have unmarked : ¬ OccursIn creditBalanceMarker (lower failure.toApiError.message) :=
      fun marked => faultless (.inr (.inr (.inr ⟨rejected, marked⟩)))
    have listed : ((400 : Int), SdkClass.badRequestError) ∈ statusClasses := by decide
    rw [classify_of_dedicated client answered rejected listed rfl]
    exact ⟨_, if_neg unmarked⟩
  · -- A class of its own or one of the two general classes.
    cases dedicated : statusClasses.lookup response.status with
    | none =>
      have below : response.status < 500 := by omega
      rw [classify_of_errorClass (errorClass_of_otherStatus client answered below dedicated)]
      exact ⟨_, rfl⟩
    | some own =>
      have member : (response.status, own) ∈ statusClasses := by
        obtain ⟨_, _, table, _⟩ := List.lookup_eq_some_iff.mp dedicated
        rw [table]
        simp
      -- The classes that remain are those of a missing, conflicting or unprocessable request.
      have unnamed : own.errorClass = .other := by
        have credentials : response.status ≠ 401 := fun same => faultless (.inl same)
        have permission : response.status ≠ 403 := fun same => faultless (.inr (.inl same))
        have size : response.status ≠ 413 := fun same => faultless (.inr (.inr (.inl same)))
        have rows := member
        simp only [statusClasses, List.mem_cons, Prod.mk.injEq, List.not_mem_nil,
          or_false] at rows
        rcases rows with ⟨same, rfl⟩ | ⟨same, rfl⟩ | ⟨same, rfl⟩ | ⟨same, rfl⟩ | ⟨same, rfl⟩ |
          ⟨same, rfl⟩ | ⟨same, rfl⟩ | ⟨same, rfl⟩ | ⟨same, rfl⟩
        all_goals first | rfl | omega
      rw [classify_of_dedicated client answered rfl member unnamed]
      exact ⟨_, rfl⟩

end Arms

end TorqueFinder
