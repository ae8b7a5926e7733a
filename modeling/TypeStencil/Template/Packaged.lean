import TypeStencil.Template.Rendering

/-!
The templates that come with the library: one for a method, one for a field, and one for the class
or interface around them.
-/
namespace TypeStencil.Template.Packaged

/-- A statement tag. -/
def tag (s : String) : String := "\x7b% " ++ s ++ " %\x7d"

/-- A print tag. -/
def put (s : String) : String := "\x7b\x7b " ++ s ++ " \x7d\x7d"

def joinLines (lines : List String) : String :=
  String.intercalate "\n" lines

/-- The comment block in front of a declaration. -/
def commentBlock : List String := [
  tag "if has_description",
  "/**",
  tag "for line in description",
  " * " ++ put "line",
  tag "endfor",
  " */",
  tag "endif"]

def functionTemplate : String := joinLines <| commentBlock ++ [
  "public " ++ put "function_name" ++ "(" ++
    tag "for name in url_parameters" ++ put "name" ++ ": string, " ++ tag "endfor" ++
    tag "if has_parameter" ++ "parameters: " ++ put "parameter_class_name" ++ ", " ++
    tag "endif" ++
    tag "if has_request_body" ++ "body: " ++ put "request_body_class" ++ ", " ++ tag "endif" ++
    "interceptor?: RequestInterceptor): Promise<" ++
    put "response_class if has_response else \"void\"" ++ "> \x7b",
  "    return http(\x7b",
  "        method: \"" ++ put "http_method | upper" ++ "\",",
  "        path: \x60" ++ put "original_path | path_template" ++ "\x60" ++
    tag "if has_query_parameters" ++ " + getQueryParameters(" ++
    put "\"parameters\" if has_parameter else \"\x7b\x7d\"" ++ ", [" ++
    tag "for name in query_parameters" ++ "\"" ++ put "name" ++ "\"" ++
    put "\", \" if not loop.last else \"\"" ++ tag "endfor" ++ "])" ++ tag "endif" ++ ",",
  tag "if has_request_body",
  "        body: " ++ put "\"JSON.stringify(body)\" if is_request_body_json else \"body\"" ++ ",",
  "        jsonBody: " ++ put "\"true\" if is_request_body_json else \"false\"" ++ ",",
  tag "endif",
  "        jsonResponse: " ++ put "\"true\" if is_json_response else \"false\"" ++ ",",
  "        interceptor: " ++
    put "\"interceptor || this.interceptor\" if force_interceptor else \"interceptor\"" ++ ",",
  "        errorHandler: this.errorHandler,",
  "    \x7d);",
  "\x7d",
  ""]

def propertyTemplate : String := joinLines <| commentBlock ++ [
  put "property_name" ++ put "\"\" if required else \"?\"" ++ ": " ++ put "value" ++
    put "\"[]\" if is_array else \"\"" ++ ";",
  ""]

def classTemplate : String := joinLines <| [
  tag "if has_imports",
  tag "for line in imports",
  put "line",
  tag "endfor",
  "",
  tag "endif"] ++ commentBlock ++ [
  "export " ++ put "\"interface\" if is_interface else \"class\"" ++ " " ++ put "type_name" ++
    " \x7b",
  tag "if has_properties",
  tag "for block in properties",
  tag "for line in block",
  put "line | indent",
  tag "endfor",
  tag "endfor",
  tag "endif",
  tag "if has_functions",
  tag "if has_properties",
  "",
  tag "endif",
  put ("\"constructor(private interceptor?: RequestInterceptor, " ++
    "private errorHandler?: ErrorHandler) \x7b\x7d\" | indent"),
  tag "for block in functions",
  "",
  tag "for line in block",
  put "line | indent",
  tag "endfor",
  tag "endfor",
  tag "endif",
  "\x7d",
  ""]

def functionName : String := "function-class.ts.j2"
def propertyName : String := "property-class.ts.j2"
def className : String := "service-class.ts.j2"

def templates : List (String × String) := [
  (functionName, functionTemplate),
  (propertyName, propertyTemplate),
  (className, classTemplate)]

end TypeStencil.Template.Packaged
