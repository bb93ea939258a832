/-
**The names in a content type.**

Each `Content-Type` that a provider port sends names the provider and the caller, in two parameters that `send_header`
adds. A value that is no token stands in quotes, with a backslash before each quote and each backslash of it.

* `withMediaTypeParameter` — one parameter more, and `sendHeader` — the two of them;
* `withMediaTypeParameter_write` — the text is the one of a media type with this parameter;
* `contentType_reads` — **the content type is read as it was meant**, whatever the name and the address are.
-/

import Mathlib.Tactic.Common
import ProviderSimulator.Lib.MediaType
import ProviderSimulator.Listeners.Wire

namespace ProviderSimulator.Listeners.HttpListenerHandler

open ProviderSimulator.Lib ProviderSimulator.Lib.MediaType
open ProviderSimulator.Listeners.Wire (Performing)

/-! ### The header that is sent -/

/-- `HTTP_TOKEN_CHARS`. -/
def isHttpTokenChar (char : Char) : Bool := "!#$%&'*+-.^_`|~".toList.contains char || char.isDigit || char.isAlpha

/-- `text.replace(old, new)`, for one character. -/
def replace (old : Char) (new : List Char) (text : List Char) : List Char :=
  text.flatMap fun char => if char = old then new else [char]

/-- A value, as a token or in quotes. -/
def parameterText (value : String) : String :=
  if value.toList.all isHttpTokenChar then value
  else "\"" ++ String.ofList (replace '"' ['\\', '"'] (replace '\\' ['\\', '\\'] value.toList)) ++ "\""

/-- `_with_media_type_parameter`. -/
def withMediaTypeParameter (mediaType name value : String) : String :=
  if value = "" then mediaType else mediaType ++ "; " ++ name ++ "=" ++ parameterText value

/-- `_content_type_with_provider_name`. -/
def contentTypeWithProviderName (mediaType providerName : String) : String :=
  withMediaTypeParameter mediaType "sim-provider" providerName

/-- `_content_type_with_caller_address`. -/
def contentTypeWithCallerAddress (mediaType callerAddress : String) : String :=
  withMediaTypeParameter mediaType "sim-caller" callerAddress

/-- `send_header` of a provider port. -/
def sendHeader (chosen : List (String × String)) (providerName callerAddress keyword value : String) : Performing Unit :=
  if keyword.toLower = "content-type" then
    Wire.sendHeader chosen keyword
      (contentTypeWithCallerAddress (contentTypeWithProviderName value providerName) callerAddress)
  else Wire.sendHeader chosen keyword value

/-! ### What it is read as -/

/-- The parameter with a value, if there is a value. -/
def named (name value : String) : List (List Char × List Char) :=
  if value = "" then [] else [(name.toList, value.toList)]

/-- The two replacements together put a backslash before each quote and each backslash. -/
theorem replace_replace (text : List Char) :
    replace '"' ['\\', '"'] (replace '\\' ['\\', '\\'] text) = text.flatMap escaped := by
  unfold replace
  rw [List.flatMap_assoc]
  refine List.flatMap_congr fun char _ => ?_
  by_cases back : char = '\\'
  · subst back
    rfl
  · by_cases quote : char = '"'
    · subst quote
      rfl
    · have plain : escaped char = [char] := if_neg (not_or.mpr ⟨quote, back⟩)
      rw [if_neg back, plain]
      simp [quote]

theorem parameterText_eq (value : String) : parameterText value = String.ofList (writeValue value.toList) := by
  have chars : isHttpTokenChar = isToken := rfl
  unfold parameterText writeValue
  rw [chars]
  by_cases token : value.toList.all isToken = true
  · rw [if_pos token, if_pos token, String.ofList_toList]
  · rw [if_neg token, if_neg token, replace_replace, String.append_assoc, ← List.singleton_append, String.ofList_append,
      String.ofList_append]

/-- **A parameter more.** -/
theorem withMediaTypeParameter_write (media : Media) (name value : String) :
    withMediaTypeParameter (write media) name value =
      write { media with parameters := media.parameters ++ named name value } := by
  unfold withMediaTypeParameter named
  by_cases empty : value = ""
  · rw [if_pos empty, if_pos empty, List.append_nil]
  · have parameter : "; " ++ name ++ "=" ++ parameterText value =
        String.ofList (writeParameter (name.toList, value.toList)) := by
      unfold writeParameter
      rw [parameterText_eq, ← List.singleton_append, String.ofList_append, String.ofList_append, String.ofList_append,
        String.ofList_toList, String.ofList_toList, String.append_assoc, String.append_assoc]
    rw [if_neg empty, if_neg empty, ← write_append, ← parameter]
    simp only [String.append_assoc]

theorem writable_named {name : String} (given : name.toList ≠ []) (token : ∀ char ∈ name.toList, isToken char = true)
    (value : String) : ∀ parameter ∈ named name value, Writable parameter := by
  intro parameter member
  unfold named at member
  by_cases empty : value = ""
  · rw [if_pos empty] at member
    cases member
  · rw [if_neg empty, List.mem_singleton] at member
    subst member
    refine ⟨given, token, fun none => empty ?_⟩
    exact String.toList_inj.mp none

/-- The two names are tokens. -/
theorem writable_names (providerName callerAddress : String) :
    ∀ parameter ∈ named "sim-provider" providerName ++ named "sim-caller" callerAddress, Writable parameter := by
  intro parameter member
  have provider : ∀ char ∈ "sim-provider".toList, isToken char = true := List.all_eq_true.mp (by decide +kernel)
  have caller : ∀ char ∈ "sim-caller".toList, isToken char = true := List.all_eq_true.mp (by decide +kernel)
  rcases List.mem_append.mp member with first | second
  · exact writable_named (by decide) provider providerName parameter first
  · exact writable_named (by decide) caller callerAddress parameter second

/-- **A valid media type with the two names is read back**, and has no parameter besides its own and these. -/
theorem read_contentType {media : Media} (valid : Valid media) (providerName callerAddress : String) :
    read (contentTypeWithCallerAddress (contentTypeWithProviderName (write media) providerName) callerAddress) =
      some { media with
        parameters := media.parameters ++ (named "sim-provider" providerName ++ named "sim-caller" callerAddress) } := by
  unfold contentTypeWithCallerAddress contentTypeWithProviderName
  rw [withMediaTypeParameter_write, withMediaTypeParameter_write]
  dsimp only
  rw [List.append_assoc]
  refine read_write ⟨valid.typed, valid.type, valid.subtyped, valid.subtype, fun parameter member => ?_⟩
  rcases List.mem_append.mp member with own | added
  · exact valid.parameters parameter own
  · exact writable_names providerName callerAddress parameter added

/-! ### The content types of the replies -/

/-- `application/json`. -/
def json : Media := ⟨"application".toList, "json".toList, []⟩

/-- `text/plain; charset=utf-8`. -/
def plainText : Media := ⟨"text".toList, "plain".toList, [("charset".toList, "utf-8".toList)]⟩

theorem json_valid : Valid json where
  typed := by decide
  type := List.all_eq_true.mp (by decide +kernel)
  subtyped := by decide
  subtype := List.all_eq_true.mp (by decide +kernel)
  parameters := nofun

theorem plainText_valid : Valid plainText where
  typed := by decide
  type := List.all_eq_true.mp (by decide +kernel)
  subtyped := by decide
  subtype := List.all_eq_true.mp (by decide +kernel)
  parameters := writable_named (by decide) (List.all_eq_true.mp (by decide +kernel)) "utf-8"

/-- **The names survive in the content type**: `send_header` sends one that is read as the media type of the reply with
its own parameters, then the name of the provider and the address of the caller, each if it is not empty. -/
theorem contentType_reads (chosen : List (String × String)) (providerName callerAddress : String) :
    (∃ value, sendHeader chosen providerName callerAddress "Content-Type" "application/json" =
        Wire.sendHeader chosen "Content-Type" value ∧
      read value = some ⟨"application".toList, "json".toList,
        named "sim-provider" providerName ++ named "sim-caller" callerAddress⟩) ∧
      ∃ value, sendHeader chosen providerName callerAddress "Content-Type" "text/plain; charset=utf-8" =
          Wire.sendHeader chosen "Content-Type" value ∧
        read value = some ⟨"text".toList, "plain".toList, ("charset".toList, "utf-8".toList) ::
          (named "sim-provider" providerName ++ named "sim-caller" callerAddress)⟩ := by
  have keyword : "Content-Type".toLower = "content-type" := by decide +kernel
  exact ⟨⟨_, if_pos keyword, read_contentType json_valid providerName callerAddress⟩,
    ⟨_, if_pos keyword, read_contentType plainText_valid providerName callerAddress⟩⟩

/-- A name that holds the text of another parameter stays one name. -/
example : contentTypeWithProviderName "application/json" "a\"; sim-provider=b" =
    "application/json; sim-provider=\"a\\\"; sim-provider=b\"" := by
  decide +kernel

end ProviderSimulator.Listeners.HttpListenerHandler
