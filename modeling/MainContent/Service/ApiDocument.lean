import MainContent.Text.Json

/-!
# The description of the interface

The OpenAPI document that the service answers about itself, and the answer of its health check.
-/

namespace MainContent.Service

open MainContent.Text (Json)

/-- The version of the service. -/
def version : String := "0.1.0"

/-- A parameter of the extraction request. -/
def parameterDocument (name description : String) : Json :=
  .record [("name", .text name), ("in", .text "query"), ("description", .text description),
    ("required", .bool false), ("schema", .record [("type", .text "string")])]

/-- The successful response of an operation. -/
def responseDocument (description contentType : String) (schema : Json) : Json :=
  .record [("200", .record [("description", .text description),
    ("content", .record [(contentType, .record [("schema", schema)])])])]

/-- The extraction operation. -/
def extractDocument : Json :=
  .record [("get", .record [
    ("tags", .list [.text "Extraction"]),
    ("summary", .text "Fetch a page and return its main content as HTML."),
    ("operationId", .text "extract"),
    ("parameters", .list [
      parameterDocument "key" "Shared auth key.",
      parameterDocument "url" "Absolute http(s) URL of the page to extract."]),
    ("responses", responseDocument "Extracted HTML, or \u0060ERROR: <description>\u0060 on failure"
      "text/html" (.record [("type", .text "string")]))])]

/-- The health operation. -/
def healthDocument : Json :=
  .record [("get", .record [
    ("tags", .list [.text "Health"]),
    ("summary", .text "Health check endpoint."),
    ("description", .text ("Returns 200 if the service is running. Does not touch the network, " ++
      "so a\nslow target site never makes the service look unhealthy.")),
    ("operationId", .text "health"),
    ("responses", responseDocument "Service is healthy" "application/json"
      (.record [("$ref", .text "#/components/schemas/HealthResponse")]))])]

/-- The schema of the health check's answer. -/
def healthSchema : Json :=
  .record [("type", .text "object"), ("description", .text "Health check response."),
    ("required", .list [.text "status", .text "timestamp"]),
    ("properties", .record [("status", .record [("type", .text "string")]),
      ("timestamp", .record [("type", .text "string")])])]

/-- A group of operations. -/
def tagDocument (name description : String) : Json :=
  .record [("name", .text name), ("description", .text description)]

/-- The whole document. -/
def apiDocument : Json :=
  .record [
    ("openapi", .text "3.1.0"),
    ("info", .record [
      ("title", .text "Article Extractor"),
      ("description", .text "Fetches a page and returns its main article content as HTML"),
      ("license", .record [("name", .text "MIT"), ("identifier", .text "MIT")]),
      ("version", .text version)]),
    ("servers", .list [.record [("url", .text "/"), ("description", .text "Local server")]]),
    ("paths", .record [("/extract", extractDocument), ("/health", healthDocument)]),
    ("components", .record [("schemas", .record [("HealthResponse", healthSchema)])]),
    ("tags", .list [tagDocument "Health" "Liveness checks",
      tagDocument "Extraction" "Main-content extraction"])]

/-- The answer of the health check at a time. -/
def healthAnswer (now : String) : Json :=
  .record [("status", .text "healthy"), ("timestamp", .text now)]

end MainContent.Service
