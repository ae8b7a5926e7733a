import TypeStencil.Value.Order

/-!
Descriptors of operations and properties as found in documents. A field may be spelled in several
ways; of several spellings the last one counts, and unknown names are passed over.
-/
namespace TypeStencil

namespace Descriptor

/-- Sets the value of a field. -/
def setField {F : Type} [DecidableEq F] : List (F × Value) → F → Value → List (F × Value)
  | [], f, v => [(f, v)]
  | e :: rest, f, v => if e.1 = f then (f, v) :: rest else e :: setField rest f v

/-- Collects the fields of a table under their own names. -/
def normalize {F : Type} [DecidableEq F] (fieldOf? : String → Option F) (entries : Entries Value) :
    List (F × Value) :=
  entries.foldl (fun fields e =>
    match e.1 with
    | .str name =>
      match fieldOf? name with
      | some f => setField fields f e.2
      | none => fields
    | _ => fields) []

end Descriptor

inductive FunctionField where
  | functionName
  | httpMethod
  | routePath
  | urlParameters
  | queryParameters
  | description
  | parameterClassName
  | requestBodyClass
  | isRequestBodyJson
  | responseClass
  | isJsonResponse
  | forceInterceptor
  | imports
  deriving DecidableEq, Repr

namespace FunctionField

def all : List FunctionField :=
  [functionName, httpMethod, routePath, urlParameters, queryParameters, description,
    parameterClassName, requestBodyClass, isRequestBodyJson, responseClass, isJsonResponse,
    forceInterceptor, imports]

def name : FunctionField → String
  | functionName => "function_name"
  | httpMethod => "http_method"
  | routePath => "original_path"
  | urlParameters => "url_parameters"
  | queryParameters => "query_parameters"
  | description => "description"
  | parameterClassName => "parameter_class_name"
  | requestBodyClass => "request_body_class"
  | isRequestBodyJson => "is_request_body_json"
  | responseClass => "response_class"
  | isJsonResponse => "is_json_response"
  | forceInterceptor => "force_interceptor"
  | imports => "imports"

/-- The spellings of a field besides its name. -/
def aliases : FunctionField → List String
  | functionName => ["functionName"]
  | httpMethod => ["httpMethod"]
  | routePath => ["originalPath"]
  | urlParameters => ["urlParameter", "urlParameters"]
  | queryParameters => ["queryParameters"]
  | parameterClassName => ["parameterClassName"]
  | requestBodyClass => ["requestBodyClass"]
  | isRequestBodyJson => ["isRequestBodyJson"]
  | responseClass => ["responseClass"]
  | isJsonResponse => ["isJsonResponse"]
  | forceInterceptor => ["forceInterceptor"]
  | _ => []

def spellings (f : FunctionField) : List String :=
  f.name :: f.aliases

def ofSpelling? (s : String) : Option FunctionField :=
  all.find? fun f => f.spellings.contains s

def required : List FunctionField := [functionName, httpMethod, routePath]

/-- A null in one of these fields counts as no value. -/
def isListField : FunctionField → Bool
  | urlParameters => true
  | queryParameters => true
  | imports => true
  | _ => false

def default : FunctionField → Value
  | urlParameters => .list []
  | queryParameters => .list []
  | imports => .list []
  | isRequestBodyJson => .bool false
  | isJsonResponse => .bool false
  | forceInterceptor => .bool false
  | _ => .null

end FunctionField

/-- One operation of a resource. -/
structure FunctionDescriptor where
  functionName : Value
  httpMethod : Value
  routePath : Value
  urlParameters : Value
  queryParameters : Value
  description : Value
  parameterClassName : Value
  requestBodyClass : Value
  isRequestBodyJson : Value
  responseClass : Value
  isJsonResponse : Value
  forceInterceptor : Value
  imports : Value
  deriving Repr

namespace FunctionDescriptor

open Descriptor

def get (d : FunctionDescriptor) : FunctionField → Value
  | .functionName => d.functionName
  | .httpMethod => d.httpMethod
  | .routePath => d.routePath
  | .urlParameters => d.urlParameters
  | .queryParameters => d.queryParameters
  | .description => d.description
  | .parameterClassName => d.parameterClassName
  | .requestBodyClass => d.requestBodyClass
  | .isRequestBodyJson => d.isRequestBodyJson
  | .responseClass => d.responseClass
  | .isJsonResponse => d.isJsonResponse
  | .forceInterceptor => d.forceInterceptor
  | .imports => d.imports

/-- The descriptor with a value chosen for every field. -/
def ofFunction (value : FunctionField → Value) : FunctionDescriptor where
  functionName := value .functionName
  httpMethod := value .httpMethod
  routePath := value .routePath
  urlParameters := value .urlParameters
  queryParameters := value .queryParameters
  description := value .description
  parameterClassName := value .parameterClassName
  requestBodyClass := value .requestBodyClass
  isRequestBodyJson := value .isRequestBodyJson
  responseClass := value .responseClass
  isJsonResponse := value .isJsonResponse
  forceInterceptor := value .forceInterceptor
  imports := value .imports

theorem get_ofFunction (value : FunctionField → Value) (f : FunctionField) :
    (ofFunction value).get f = value f := by
  cases f <;> rfl

def ofEntries (entries : Entries Value) : Except TypeFault FunctionDescriptor :=
  let fields := (normalize FunctionField.ofSpelling? entries).filter fun e =>
    !(e.1.isListField && e.2 matches .null)
  match FunctionField.required.filter fun f => (fields.lookup f).isNone with
  | [] => .ok (ofFunction fun f => (fields.lookup f).getD f.default)
  | missing => .error (.missingFields "FunctionDescriptor" (missing.map FunctionField.name))

def toEntries (d : FunctionDescriptor) : List (String × Value) :=
  FunctionField.all.map fun f => (f.name, d.get f)

end FunctionDescriptor

inductive PropertyField where
  | propertyName
  | value
  | required
  | isArray
  | description
  | importName
  deriving DecidableEq, Repr

namespace PropertyField

def all : List PropertyField :=
  [propertyName, value, required, isArray, description, importName]

def name : PropertyField → String
  | propertyName => "property_name"
  | value => "value"
  | required => "required"
  | isArray => "is_array"
  | description => "description"
  | importName => "import_name"

def aliases : PropertyField → List String
  | propertyName => ["propertyName"]
  | isArray => ["isArray"]
  | importName => ["import"]
  | _ => []

def spellings (f : PropertyField) : List String :=
  f.name :: f.aliases

def ofSpelling? (s : String) : Option PropertyField :=
  all.find? fun f => f.spellings.contains s

def mandatory : List PropertyField := [propertyName, value]

def default : PropertyField → Value
  | required => .bool false
  | isArray => .bool false
  | _ => .null

end PropertyField

/-- One field of a schema. -/
structure PropertyDescriptor where
  propertyName : Value
  value : Value
  required : Value
  isArray : Value
  description : Value
  importName : Value
  deriving Repr

namespace PropertyDescriptor

open Descriptor

def get (d : PropertyDescriptor) : PropertyField → Value
  | .propertyName => d.propertyName
  | .value => d.value
  | .required => d.required
  | .isArray => d.isArray
  | .description => d.description
  | .importName => d.importName

/-- The descriptor with a value chosen for every field. -/
def ofFunction (value : PropertyField → Value) : PropertyDescriptor where
  propertyName := value .propertyName
  value := value .value
  required := value .required
  isArray := value .isArray
  description := value .description
  importName := value .importName

theorem get_ofFunction (value : PropertyField → Value) (f : PropertyField) :
    (ofFunction value).get f = value f := by
  cases f <;> rfl

def ofEntries (entries : Entries Value) : Except TypeFault PropertyDescriptor :=
  let fields := normalize PropertyField.ofSpelling? entries
  match PropertyField.mandatory.filter fun f => (fields.lookup f).isNone with
  | [] => .ok (ofFunction fun f => (fields.lookup f).getD f.default)
  | missing => .error (.missingFields "PropertyDescriptor" (missing.map PropertyField.name))

def toEntries (d : PropertyDescriptor) : List (String × Value) :=
  PropertyField.all.map fun f => (f.name, d.get f)

end PropertyDescriptor

end TypeStencil
