import ProtoUpkeep.Status.Anchor
import ProtoUpkeep.Status.Fragments

/-!
# Settings of the status enum

Which enum of which proto file belongs to which Swift file, and how the Swift file is written.
-/

namespace ProtoUpkeep

/-- What keeping the Swift enum in step depends on. -/
structure StatusSettings where
  /-- The name of the enum in the proto file. -/
  enumName : Text
  /-- The proto file, relative to the project's root. -/
  protoPath : Text
  /-- The Swift file, relative to the project's root. -/
  swiftPath : Text
  /-- What the doc comment of a deprecated code starts with. -/
  deprecatedMarker : Text
  /-- The spelling of the segments of names that are not capitalized. -/
  acronyms : Dictionary
  /-- Where generated text goes. -/
  anchors : PerSection Anchor
deriving DecidableEq

namespace StatusSettings

/-- The acronyms that are spelled in a way of their own unless the settings say otherwise. -/
def defaultAcronyms : Dictionary :=
  Dictionary.ofList [
    ("ID", "ID"), ("IPV4", "Ipv4"), ("FQDN", "Fqdn"), ("NFT", "Nft"), ("KYC", "Kyc"),
    ("GRPC", "Grpc"), ("LCM", "Lcm")]

/-- The settings that hold where nothing else is said. -/
def default : StatusSettings where
  enumName := "ResponseCodeEnum"
  protoPath := "Sources/HieroProtobufs/Protos/services/response_code.proto"
  swiftPath := "Sources/Hiero/Status.swift"
  deprecatedMarker := "[Deprecated]"
  acronyms := defaultAcronyms
  anchors := Anchor.defaults

/-- How codes are spelled in Swift under these settings. -/
def style (s : StatusSettings) : Style where
  acronyms := s.acronyms
  marker := s.deprecatedMarker

end StatusSettings

end ProtoUpkeep
