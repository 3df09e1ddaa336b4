import FaultMesh.Definition

/-!
# Builtin codes

The codes that every service of the mesh knows without loading a definition, so that a
fault can always be made when a request or a downstream call goes wrong.  They belong to
the component `http`.
-/

set_option autoImplicit false

namespace FaultMesh

inductive Builtin where
  | queryParameterInvalid
  | invalidParametersFailure
  | tokenMissing
  | tokenExpired
  | tokenInactive
  | tokenVerificationFailure
  | tokenInvalidProperty
  | unauthorized
  | unauthorizedCaller
  | requesterEncodingFailure
  | requesterDecodingFailure
  | requesterErrorResponseFailure
  | requesterCreateRequestFailure
  | requesterSendRequestFailure
  | unknownErrorCode
  deriving DecidableEq, Repr

namespace Builtin

def component : String := "http"

def all : List Builtin :=
  [.queryParameterInvalid, .invalidParametersFailure, .tokenMissing,
   .tokenExpired, .tokenInactive, .tokenVerificationFailure,
   .tokenInvalidProperty, .unauthorized, .unauthorizedCaller,
   .requesterEncodingFailure, .requesterDecodingFailure, .requesterErrorResponseFailure,
   .requesterCreateRequestFailure, .requesterSendRequestFailure, .unknownErrorCode]

def code : Builtin → String
  | .queryParameterInvalid => "http.400.QueryParameterInvalid"
  | .invalidParametersFailure => "http.400.InvalidParametersFailure"
  | .tokenMissing => "http.401.TokenMissing"
  | .tokenExpired => "http.401.TokenExpired"
  | .tokenInactive => "http.401.TokenInactive"
  | .tokenVerificationFailure => "http.401.TokenVerificationFailure"
  | .tokenInvalidProperty => "http.401.TokenInvalidProperty"
  | .unauthorized => "http.401.Unauthorized"
  | .unauthorizedCaller => "http.401.UnauthorizedCaller"
  | .requesterEncodingFailure => "http.500.RequesterEncodingFailure"
  | .requesterDecodingFailure => "http.500.RequesterDecodingFailure"
  | .requesterErrorResponseFailure => "http.500.RequesterErrorResponseFailure"
  | .requesterCreateRequestFailure => "http.500.RequesterCreateRequestFailure"
  | .requesterSendRequestFailure => "http.500.RequesterSendRequestFailure"
  | .unknownErrorCode => "http.500.UnknownErrorCode"

def ofCode? (code : String) : Option Builtin :=
  all.find? fun builtin => builtin.code == code

structure Entry where
  status : UInt16
  description : String
  message : String
  data : List (String × String)

def targetRole : List (String × String) :=
  [("Role", "Type of authorization access being used."),
   ("Target", "Identity being acted on.")]

def entry : Builtin → Entry
  | .queryParameterInvalid =>
    { status := 400
      description :=
        "An invalid query parameter was provided in the request."
      message :=
        "The incoming request has an invalid query parameter '\x7b\x7b.Data.Param\x7d\x7d'. Error: '\x7b\x7b.Data.Error\x7d\x7d'"
      data :=
        [("Param", "The invalid query parameter."),
         ("Error", "The error raised while validating the query parameters.")] }
  | .invalidParametersFailure =>
    { status := 400
      description :=
        "The request parameters are invalid."
      message :=
        "The request parameters are invalid. Error: '\x7b\x7b.Data.Error\x7d\x7d'"
      data :=
        [("Error", "The error raised while parsing the request parameters.")] }
  | .tokenMissing =>
    { status := 401
      description :=
        "The request carried no usable token, so it could not be completed."
      message :=
        "Token is missing or malformed and could not be validated. Error: '\x7b\x7b.Data.Error\x7d\x7d'"
      data :=
        [("Error", "Error found when extracting the token from the request.")] }
  | .tokenExpired =>
    { status := 401
      description :=
        "The token provided with the request is expired."
      message :=
        "The provided access token expired at '\x7b\x7b.Data.ExpirationDate\x7d\x7d'."
      data :=
        [("ExpirationDate", "Expiration date of the given token.")] }
  | .tokenInactive =>
    { status := 401
      description :=
        "The token provided with the request is no longer active."
      message :=
        "The provided token with user '\x7b\x7b.Data.Target\x7d\x7d' and role '\x7b\x7b.Data.Role\x7d\x7d' is no longer active."
      data := targetRole }
  | .tokenVerificationFailure =>
    { status := 401
      description :=
        "Token verification failed, so the request could not be completed."
      message :=
        "The provided token with user '\x7b\x7b.Data.Target\x7d\x7d' and role '\x7b\x7b.Data.Role\x7d\x7d' could not be verified, please try again. Error: '\x7b\x7b.Data.Error\x7d\x7d'"
      data :=
        [("Role", "Type of authorization access being used."),
         ("Target", "Identity being acted on."),
         ("Error", "Error returned by the verifier.")] }
  | .tokenInvalidProperty =>
    { status := 401
      description :=
        "The token in the request has an invalid property."
      message :=
        "The provided token has an invalid '\x7b\x7b.Data.Name\x7d\x7d' value '\x7b\x7b.Data.Value\x7d\x7d', please try again. Error: '\x7b\x7b.Data.Error\x7d\x7d'"
      data :=
        [("Error", "Error found when retrieving the property from the token."),
         ("Name", "Name of the token property."),
         ("Value", "Value associated with the token property.")] }
  | .unauthorized =>
    { status := 401
      description :=
        "The user associated with the token does not have access to this endpoint."
      message :=
        "User with identifier '\x7b\x7b.Data.Target\x7d\x7d' and role '\x7b\x7b.Data.Role\x7d\x7d' does not have access."
      data := targetRole }
  | .unauthorizedCaller =>
    { status := 401
      description :=
        "The calling service's user does not have access to this endpoint."
      message :=
        "Caller with identifier '\x7b\x7b.Data.Target\x7d\x7d' and role '\x7b\x7b.Data.Role\x7d\x7d' does not have access."
      data := targetRole }
  | .requesterEncodingFailure =>
    { status := 500
      description :=
        "The internal request could not be performed as its payload could not be encoded."
      message :=
        "Failed to encode request payload. Error: '\x7b\x7b.Data.Error\x7d\x7d'"
      data :=
        [("Error", "Encoding error.")] }
  | .requesterDecodingFailure =>
    { status := 500
      description :=
        "The internal request succeeded but its response could not be decoded."
      message :=
        "Failed to decode response payload. Error: '\x7b\x7b.Data.Error\x7d\x7d'"
      data :=
        [("Error", "Decoding error.")] }
  | .requesterErrorResponseFailure =>
    { status := 500
      description :=
        "A downstream service failed and its error response could not be decoded."
      message :=
        "Failed to decode failing response payload as an error. Response: '\x7b\x7b.Data.Response\x7d\x7d'"
      data :=
        [("Response", "Response sent by the downstream component."),
         ("Error", "Error encountered while trying to decode 'Response'.")] }
  | .requesterCreateRequestFailure =>
    { status := 500
      description :=
        "The internal request could not be initialized."
      message :=
        "Failed to initialize request. Error: '\x7b\x7b.Data.Error\x7d\x7d'"
      data :=
        [("Error", "Error raised while initializing the request.")] }
  | .requesterSendRequestFailure =>
    { status := 500
      description :=
        "The HTTP client failed to execute the internal request."
      message :=
        "Failed to execute request. Error: '\x7b\x7b.Data.Error\x7d\x7d'"
      data :=
        [("Error", "HTTP client error.")] }
  | .unknownErrorCode =>
    { status := 500
      description :=
        "An error was raised with a code that is not registered."
      message :=
        "An internal error occurred while reporting error '\x7b\x7b.Data.Code\x7d\x7d'."
      data :=
        [("Code", "The unregistered error code.")] }

/-- The template of a text, or an empty one. -/
def compiled (source : String) : Template :=
  match Template.parse source with
  | .ok template => template
  | .error _ => .empty

def definition (builtin : Builtin) : Definition where
  code := builtin.code
  status := builtin.entry.status
  description := builtin.entry.description
  messages := .ofList [("en", compiled builtin.entry.message)]
  data := .ofList builtin.entry.data

end Builtin

end FaultMesh
