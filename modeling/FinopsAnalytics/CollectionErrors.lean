import FinopsAnalytics.PythonText

/-!
# Collection errors as they are shown

What is stored of an error is one of a fixed list of messages, chosen by the codes
that occur in the text of the error or name its type.
-/

namespace FinopsAnalytics.CollectionErrors

open PythonText

/-- The table `ERROR_MESSAGES`, in its order. -/
def errorMessages : List (String × String) :=
  [("AccessDenied", "Acesso negado (AccessDenied). Verifique as permissões da coleta."),
    ("UnauthorizedOperation",
      "Sem permissão (UnauthorizedOperation). Verifique a função de coleta."),
    ("ExpiredToken",
      "Credencial temporária expirada (ExpiredToken). Verifique a autenticação."),
    ("InvalidClientTokenId",
      "Credencial inválida (InvalidClientTokenId). Verifique a autenticação."),
    ("SignatureDoesNotMatch",
      "Assinatura inválida (SignatureDoesNotMatch). Verifique a autenticação."),
    ("NotAuthenticated",
      "Falha de autenticação no provider. Verifique as credenciais configuradas."),
    ("NotAuthorizedOrNotFound", "Sem permissão para consultar esta fonte no provider."),
    ("Forbidden", "Sem permissão para consultar esta fonte no provider."),
    ("Throttling", "Limite de requisições atingido (Throttling). Tente novamente mais tarde."),
    ("RequestLimitExceeded", "Limite atingido (RequestLimitExceeded). Tente novamente."),
    ("TooManyRequests", "Limite de requisições atingido. Tente novamente mais tarde."),
    ("EndpointConnectionError", "Falha de conexão (EndpointConnectionError). Verifique a rede."),
    ("ConnectTimeoutError", "Tempo limite de conexão com o provider (ConnectTimeoutError)."),
    ("ReadTimeoutError", "Tempo limite de resposta do provider (ReadTimeoutError)."),
    ("TimeoutError", "Tempo limite durante a coleta."),
    ("AWS account was removed or disabled", "A conta foi removida ou desabilitada."),
    ("OCI credential failure",
      "Falha de credencial OCI (OCI credential failure). Verifique a autenticação e a assinatura."),
    ("OCI authentication failure",
      "Falha de autenticação OCI (OCI authentication failure). " ++
        "Verifique a autenticação e a assinatura."),
    ("OCI credential tenancy",
      "A credencial OCI não corresponde ao tenancy configurado (OCI credential tenancy)."),
    ("local_configuration_invalid",
      "A configuração local do provider é inválida ou incompleta.")]

/-- `GENERIC_ERROR` -/
def genericError : String :=
  "Falha durante a coleta. Verifique a conexão e as permissões da conta."

/-- What may be sanitized: text, or an exception with the name of its type. -/
inductive ErrorValue where
  | text (message : String)
  | raised (typeName message : String)
deriving DecidableEq, Repr

/-- `str(value)` -/
def ErrorValue.message : ErrorValue → String
  | .text message => message
  | .raised _ message => message

/-- `type(value).__name__` -/
def ErrorValue.typeName : ErrorValue → String
  | .text _ => "str"
  | .raised typeName _ => typeName

/-- The text may be shown as it is. -/
def shownAsIs (message : String) : Bool :=
  (errorMessages.map Prod.snd).contains message || message == genericError

/-- The message of the first code that the error names. -/
def codedMessage (value : ErrorValue) : Option String :=
  (errorMessages.find? fun entry =>
    contains value.message entry.1 || entry.1 == value.typeName).map Prod.snd

/-- `sanitize_collection_error` -/
def sanitizeCollectionError (value : ErrorValue) : Option String :=
  if value = .text "" then none
  else if shownAsIs value.message then some value.message
  else some ((codedMessage value).getD genericError)

end FinopsAnalytics.CollectionErrors
