import DjangoWaf.Lib.PyStr
import DjangoWaf.Models

/-!
# The nginx blocklist

`generate_nginx_blocklist` of `services/blocklist_generator.py`, up to the text it writes. The file
has a block for each of four variables: user agents and addresses, to block and to throttle. A block
has a default and a line for each key, the first time the key is rendered.

The file system, the check of the configuration and the reload of the server come after the text and
are left out.
-/

namespace DjangoWaf

/-! ### Keys -/

/-- `pattern.replace('"', '\\"')`. -/
def escapeQuotes (text : List Char) : List Char :=
  text.flatMap fun c ↦ if c = '"' then ['\\', '"'] else [c]

/-- `_nginx_escape_ua`. -/
def nginxEscapeUa (pattern : String) (matchType : MatchType) : String :=
  let pattern := PyStr.stripText pattern
  if pattern = "" then ""
  else
    match matchType with
    | .exact => "\"" ++ String.ofList (escapeQuotes pattern.toList) ++ "\""
    | .contains => "\"~*" ++ PyStr.reEscape pattern ++ "\""
    | .regex => "\"~*" ++ pattern ++ "\""
    | .cidr | .other _ => ""

/-- The key of a rule in a `map` block. -/
def mapKey (r : BlockRule) : String := nginxEscapeUa r.pattern r.matchType

/-- The key of a rule in a `geo` block. -/
def geoKey (r : BlockRule) : String := PyStr.stripText r.pattern

/-! ### Blocks -/

/-- The keys of some rules, without the empty one and those that were there before. -/
def renderKeys (key : BlockRule → String) : List String → List BlockRule → List String
  | _, [] => []
  | seen, r :: rules =>
    if key r ≠ "" && !seen.contains (key r) then
      key r :: renderKeys key (key r :: seen) rules
    else renderKeys key seen rules

/-- The line of a key. -/
def entryLine (key : String) : String := "    " ++ key ++ " 1;\n"

/-- `_render_ua_map`. -/
def renderUaMap (name : String) (rules : List BlockRule) : List String :=
  ["map $http_user_agent " ++ name ++ " \x7b\n", "    default 0;\n"] ++
    (renderKeys mapKey [] rules).map entryLine ++ ["\x7d\n\n"]

/-- `_render_ip_geo`. -/
def renderIpGeo (name : String) (rules : List BlockRule) : List String :=
  ["geo " ++ name ++ " \x7b\n", "    default 0;\n"] ++
    (renderKeys geoKey [] rules).map entryLine ++ ["\x7d\n\n"]

/-! ### The file -/

/-- `BlockRule.objects.for_nginx()`. -/
def Db.forNginx (db : Db) (now : ℚ) : List BlockRule :=
  (db.activeBlockRules now).filter fun r ↦
    (r.ruleType = .ip || r.ruleType = .cidr || r.ruleType = .ua) &&
      (r.action = .block || r.action = .throttle)

/-- The user agent rules of an action. -/
def uaRules (action : RuleAction) (rules : List BlockRule) : List BlockRule :=
  rules.filter fun r ↦ r.ruleType = .ua && r.action = action

/-- The address rules of an action. -/
def ipRules (action : RuleAction) (rules : List BlockRule) : List BlockRule :=
  rules.filter fun r ↦ (r.ruleType = .ip || r.ruleType = .cidr) && r.action = action

/-- The comments at the head of the file. -/
def headLines : List String :=
  ["# Generated by django-waf, do not edit manually\n",
    "# This file is regenerated every 5 minutes by the generate_blocklist task.\n",
    "# Declares variables only; see django_waf/conf/nginx/ for the reference\n",
    "# enforcement snippet (block => 403, throttle => limit_req).\n\n"]

/-- The lines `generate_nginx_blocklist` writes for some rules. -/
def blocklistLines (rules : List BlockRule) : List String :=
  headLines ++
  renderUaMap "$waf_block_ua" (uaRules .block rules) ++
  renderUaMap "$waf_throttle_ua" (uaRules .throttle rules) ++
  renderIpGeo "$waf_block_ip" (ipRules .block rules) ++
  renderIpGeo "$waf_throttle_ip" (ipRules .throttle rules)

/-- The text of the file. -/
def generateNginxBlocklist (db : Db) (now : ℚ) : List Char :=
  (blocklistLines (db.forNginx now)).flatMap String.toList

end DjangoWaf
