/-! # An example configuration

A small configuration with two endpoints, as it is printed for a reader to start from.
-/

namespace StubServer.Config

def exampleLines : List String := [
  "settings:",
  "  listen: 127.0.0.1:8080",
  "  matches_count_only: false",
  "  mismatches_count_only: false",
  "  max_matches_per_endpoint: 100",
  "  max_mismatches: 100",
  "",
  "mocks:",
  "  - name: users",
  "    endpoints:",
  "      - id: get-user",
  "        request:",
  "          method: GET",
  "          path: /users/\x7bid\x7d",
  "        response:",
  "          headers: |",
  "            Content-Type: application/json",
  "          body: '\x7b\"id\": \"\x7b\x7bRequestPathParams.id\x7d\x7d\"\x7d'",
  "",
  "      - id: create-user",
  "        priority: 10",
  "        request:",
  "          method: POST",
  "          path: /users",
  "          headers:",
  "            Content-Type: application/json",
  "          body: '\"name\"'",
  "        response:",
  "          status: \"201\"",
  "          body: '\x7b\x7bkv_put (concat \"user-\" RequestBodyJSONData.name) RequestBody\x7d\x7dcreated'"]

def exampleText : String := String.join (exampleLines.map fun line => line ++ "\n")

end StubServer.Config
