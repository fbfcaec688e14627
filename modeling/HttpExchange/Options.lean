import HttpExchange.Http.Message

/-!
# Options of a request
-/

namespace HttpExchange

/-- How the body of a successful response is understood. -/
inductive BodyKind where
  | json
  | raw
  deriving DecidableEq

namespace BodyKind

instance : Inhabited BodyKind := ⟨json⟩

def name : BodyKind → String
  | json => "json"
  | raw => "raw"

def table : List (String × BodyKind) :=
  [json, raw].map fun kind => (kind.name, kind)

end BodyKind

structure RequestOptions where
  kind : BodyKind
  method : Method
  progress : Bool
  deriving DecidableEq

namespace RequestOptions

/-- A JSON response to a posted request, without progress. -/
def default : RequestOptions :=
  ⟨.json, .post, false⟩

instance : Inhabited RequestOptions := ⟨default⟩

def withKind (kind : BodyKind) (options : RequestOptions) : RequestOptions :=
  { options with kind := kind }

def withMethod (name : String) (options : RequestOptions) : RequestOptions :=
  { options with method := .ofName name }

def withProgress (enabled : Bool) (options : RequestOptions) : RequestOptions :=
  { options with progress := enabled }

def text (options : RequestOptions) : String :=
  "\x7b\"response_kind\":" ++ Json.quoted options.kind.name ++
    ",\"method\":" ++ Json.quoted options.method.name ++
    ",\"report_upload_progress\":" ++ (Json.Value.bool options.progress).text ++ "\x7d"

def fields : List (Json.Read.Field RequestOptions) :=
  [{ name := "response_kind"
     read := fun options input => do
      let (kind, rest) ← Json.Read.variant BodyKind.table (Json.Read.maximalDepth - 1) input
      .ok ({ options with kind := kind }, rest) },
   { name := "method"
     read := fun options input => do
      let (method, rest) ← Method.read input
      .ok ({ options with method := method }, rest) },
   { name := "report_upload_progress"
     read := fun options input => do
      let (enabled, rest) ← Json.Read.bool input
      .ok ({ options with progress := enabled }, rest) }]

def parse (document : Bytes) : Except Json.Fault RequestOptions :=
  Json.Read.whole (Json.Read.record "struct SendOptions" fields default) document

end RequestOptions
end HttpExchange
