import TypeStencil.Descriptor

/-!
What a template sees of a member: flags that say which parts there are, and the parts themselves.
-/
namespace TypeStencil

structure FunctionView where
  functionName : Value
  httpMethod : Value
  routePath : Value
  hasDescription : Bool
  description : List String
  hasUrlParameters : Bool
  urlParameters : List Value
  hasParameter : Bool
  parameterClassName : Value
  hasQueryParameters : Bool
  queryParameters : List Value
  hasRequestBody : Bool
  isRequestBodyJson : Bool
  requestBodyClass : Value
  forceInterceptor : Bool
  hasResponse : Bool
  isJsonResponse : Bool
  responseClass : Value
  deriving Repr

namespace FunctionView

/-- A list field that counts as absent is empty. -/
def listItems (v : Value) : Except TypeFault (List Value) :=
  (v.orElse (.list [])).items

/-- Without a body or a response the flags about it are off. -/
def ofDescriptor (d : FunctionDescriptor) : Except TypeFault FunctionView := do
  let urlParameters ← listItems d.urlParameters
  let queryParameters ← listItems d.queryParameters
  let description ← d.description.lines
  return {
    functionName := d.functionName
    httpMethod := d.httpMethod
    routePath := d.routePath
    hasDescription := d.description.isPresent
    description
    hasUrlParameters := !urlParameters.isEmpty
    urlParameters
    hasParameter := d.parameterClassName.isPresent
    parameterClassName := d.parameterClassName
    hasQueryParameters := !queryParameters.isEmpty
    queryParameters
    hasRequestBody := d.requestBodyClass.isPresent
    isRequestBodyJson := d.requestBodyClass.isPresent && d.isRequestBodyJson.isPresent
    requestBodyClass := d.requestBodyClass
    forceInterceptor := d.forceInterceptor.isPresent
    hasResponse := d.responseClass.isPresent
    isJsonResponse := d.responseClass.isPresent && d.isJsonResponse.isPresent
    responseClass := d.responseClass }

def toContext (v : FunctionView) : List (String × Value) := [
  ("function_name", v.functionName),
  ("http_method", v.httpMethod),
  ("original_path", v.routePath),
  ("has_description", .bool v.hasDescription),
  ("description", .strings v.description),
  ("has_url_parameters", .bool v.hasUrlParameters),
  ("url_parameters", .list v.urlParameters),
  ("has_parameter", .bool v.hasParameter),
  ("parameter_class_name", v.parameterClassName),
  ("has_query_parameters", .bool v.hasQueryParameters),
  ("query_parameters", .list v.queryParameters),
  ("has_request_body", .bool v.hasRequestBody),
  ("is_request_body_json", .bool v.isRequestBodyJson),
  ("request_body_class", v.requestBodyClass),
  ("force_interceptor", .bool v.forceInterceptor),
  ("has_response", .bool v.hasResponse),
  ("is_json_response", .bool v.isJsonResponse),
  ("response_class", v.responseClass)]

end FunctionView

structure PropertyView where
  propertyName : Value
  value : Value
  required : Bool
  isArray : Bool
  hasDescription : Bool
  description : List String
  deriving Repr

namespace PropertyView

def ofDescriptor (d : PropertyDescriptor) : Except TypeFault PropertyView := do
  let description ← d.description.lines
  return {
    propertyName := d.propertyName
    value := d.value
    required := d.required.isPresent
    isArray := d.isArray.isPresent
    hasDescription := d.description.isPresent
    description }

def toContext (v : PropertyView) : List (String × Value) := [
  ("property_name", v.propertyName),
  ("value", v.value),
  ("required", .bool v.required),
  ("is_array", .bool v.isArray),
  ("has_description", .bool v.hasDescription),
  ("description", .strings v.description)]

end PropertyView

end TypeStencil
