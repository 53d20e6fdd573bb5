/-!
# Built-in lists of iterator types

The iterator types of the two deployed units. They are kept apart on purpose: the unit that
fetches objects registers the properties with plain values but has no adapter for them, while
the other one supports every property.
-/

namespace UniformIter.BuiltIn

/-- The iterator types of the `fetch` unit that get an adapter. -/
def fetchSupported : List String := [
    "ActivityStreamsActorPropertyIterator",
    "ActivityStreamsAnyOfPropertyIterator",
    "ActivityStreamsAttachmentPropertyIterator",
    "ActivityStreamsAttributedToPropertyIterator",
    "ActivityStreamsAudiencePropertyIterator",
    "ActivityStreamsBccPropertyIterator",
    "ActivityStreamsBtoPropertyIterator",
    "ActivityStreamsCcPropertyIterator",
    "ActivityStreamsClosedPropertyIterator",
    "ActivityStreamsContextPropertyIterator",
    "ActivityStreamsFormerTypePropertyIterator",
    "ActivityStreamsGeneratorPropertyIterator",
    "ActivityStreamsIconPropertyIterator",
    "ActivityStreamsImagePropertyIterator",
    "ActivityStreamsInReplyToPropertyIterator",
    "ActivityStreamsInstrumentPropertyIterator",
    "ActivityStreamsItemsPropertyIterator",
    "ActivityStreamsLocationPropertyIterator",
    "ActivityStreamsObjectPropertyIterator",
    "ActivityStreamsOneOfPropertyIterator",
    "ActivityStreamsOrderedItemsPropertyIterator",
    "ActivityStreamsOriginPropertyIterator",
    "ActivityStreamsPreviewPropertyIterator",
    "ActivityStreamsRelationshipPropertyIterator",
    "ActivityStreamsResultPropertyIterator",
    "ActivityStreamsStreamsPropertyIterator",
    "ActivityStreamsTagPropertyIterator",
    "ActivityStreamsTargetPropertyIterator",
    "ActivityStreamsToPropertyIterator",
    "ActivityStreamsUrlPropertyIterator",
    "W3IDSecurityV1PublicKeyPropertyIterator"]

/-- The iterator types of the `fetch` unit that get none: they visit plain values rather than
objects. -/
def fetchUnsupported : List String := [
    "ActivityStreamsContentPropertyIterator",
    "ActivityStreamsNamePropertyIterator",
    "ActivityStreamsRelPropertyIterator",
    "ActivityStreamsSummaryPropertyIterator",
    "JSONLDTypePropertyIterator"]

/-- The iterator types of the `fedutil` unit. -/
def fedutilSupported : List String := [
    "ActivityStreamsActorPropertyIterator",
    "ActivityStreamsAnyOfPropertyIterator",
    "ActivityStreamsAttachmentPropertyIterator",
    "ActivityStreamsAttributedToPropertyIterator",
    "ActivityStreamsAudiencePropertyIterator",
    "ActivityStreamsBccPropertyIterator",
    "ActivityStreamsBtoPropertyIterator",
    "ActivityStreamsCcPropertyIterator",
    "ActivityStreamsClosedPropertyIterator",
    "ActivityStreamsContentPropertyIterator",
    "ActivityStreamsContextPropertyIterator",
    "ActivityStreamsFormerTypePropertyIterator",
    "ActivityStreamsGeneratorPropertyIterator",
    "ActivityStreamsIconPropertyIterator",
    "ActivityStreamsImagePropertyIterator",
    "ActivityStreamsInReplyToPropertyIterator",
    "ActivityStreamsInstrumentPropertyIterator",
    "ActivityStreamsItemsPropertyIterator",
    "ActivityStreamsLocationPropertyIterator",
    "ActivityStreamsNamePropertyIterator",
    "ActivityStreamsObjectPropertyIterator",
    "ActivityStreamsOneOfPropertyIterator",
    "ActivityStreamsOrderedItemsPropertyIterator",
    "ActivityStreamsOriginPropertyIterator",
    "ActivityStreamsPreviewPropertyIterator",
    "ActivityStreamsRelPropertyIterator",
    "ActivityStreamsRelationshipPropertyIterator",
    "ActivityStreamsResultPropertyIterator",
    "ActivityStreamsStreamsPropertyIterator",
    "ActivityStreamsSummaryPropertyIterator",
    "ActivityStreamsTagPropertyIterator",
    "ActivityStreamsTargetPropertyIterator",
    "ActivityStreamsToPropertyIterator",
    "ActivityStreamsUrlPropertyIterator",
    "JSONLDTypePropertyIterator",
    "W3IDSecurityV1PublicKeyPropertyIterator"]

end UniformIter.BuiltIn
