/-
The error codes of the image verifier and the ROM flows.

`CaliptraError` in the sources is a `NonZeroU32` code with one named constant per failure
site.  Only the names matter to what is proved here, that every failure site reports its own
kind, so the model keeps one constructor per constant the modelled functions return, under
the constant's own words.  Errors raised inside drivers that are not part of these sources (a
SHA engine fault, a mailbox register error) come back through the hardware oracles as
`driverError`.

The verifier's eight `ref_from_prefix` read errors for the PQC key and signature fields are
left out: each field is a word array at least as long as the type read from it, so those reads
cannot fail and the branches that return them are dead.
-/
namespace Caliptra

/-- The error kinds the modelled functions return. -/
inductive CaliptraError where
  | imageVerifierErrManifestMarkerMismatch
  | imageVerifierErrManifestSizeMismatch
  | imageVerifierErrPqcKeyTypeInvalid
  | imageVerifierErrPqcKeyTypeMismatch
  | imageVerifierErrInvalidPqcKeyTypeInFuse
  | imageVerifierErrDigestOutOfBounds
  | imageVerifierErrFirmwareSvnGreaterThanMaxSupported
  | imageVerifierErrFirmwareSvnLessThanFuse
  | imageVerifierErrVendorEccPubKeyIndexOutOfBounds
  | imageVerifierErrVendorEccPubKeyRevoked
  | imageVerifierErrUpdateResetVendorEccPubKeyIdxMismatch
  | imageVerifierErrVendorPqcPubKeyIndexOutOfBounds
  | imageVerifierErrVendorPqcPubKeyRevoked
  | imageVerifierErrUpdateResetVendorPqcPubKeyIdxMismatch
  | imageVerifierErrVendorPubKeyDigestInvalid
  | imageVerifierErrEccKeyDescriptorVersionMismatch
  | imageVerifierErrEccKeyDescriptorInvalidHashCount
  | imageVerifierErrEccKeyDescriptorHashCountGtMax
  | imageVerifierErrPqcKeyDescriptorVersionMismatch
  | imageVerifierErrPqcKeyDescriptorTypeMismatch
  | imageVerifierErrPqcKeyDescriptorInvalidHashCount
  | imageVerifierErrPqcKeyDescriptorHashCountGtMax
  | imageVerifierErrVendorPubKeyDigestFailure
  | imageVerifierErrVendorPubKeyDigestMismatch
  | imageVerifierErrVendorEccPubKeyDigestMismatch
  | imageVerifierErrVendorPqcPubKeyDigestMismatch
  | imageVerifierErrOwnerPubKeyDigestFailure
  | imageVerifierErrOwnerPubKeyDigestMismatch
  | imageVerifierErrUpdateResetOwnerDigestFailure
  | imageVerifierErrHeaderDigestFailure
  | imageVerifierErrVendorEccPubKeyIndexMismatch
  | imageVerifierErrVendorPqcPubKeyIndexMismatch
  | imageVerifierErrOwnerEccSignatureInvalid
  | imageVerifierErrOwnerEccPubKeyInvalidArg
  | imageVerifierErrOwnerEccSignatureInvalidArg
  | imageVerifierErrOwnerEccVerifyFailure
  | imageVerifierErrVendorEccSignatureInvalid
  | imageVerifierErrVendorEccPubKeyInvalidArg
  | imageVerifierErrVendorEccSignatureInvalidArg
  | imageVerifierErrVendorEccVerifyFailure
  | imageVerifierErrVendorMldsaDigestMissing
  | imageVerifierErrOwnerMldsaDigestMissing
  | imageVerifierErrOwnerLmsVerifyFailure
  | imageVerifierErrOwnerLmsSignatureInvalid
  | imageVerifierErrVendorLmsVerifyFailure
  | imageVerifierErrVendorLmsSignatureInvalid
  | imageVerifierErrOwnerMldsaVerifyFailure
  | imageVerifierErrOwnerMldsaSignatureInvalid
  | imageVerifierErrVendorMldsaVerifyFailure
  | imageVerifierErrVendorMldsaSignatureInvalid
  | imageVerifierErrTocEntryCountInvalid
  | imageVerifierErrTocDigestFailure
  | imageVerifierErrTocDigestMismatch
  | imageVerifierErrTocEntryRangeArithmeticOverflow
  | imageVerifierErrFmcSizeZero
  | imageVerifierErrRuntimeSizeZero
  | imageVerifierErrImageLenMoreThanBundleSize
  | imageVerifierErrFmcRuntimeOverlap
  | imageVerifierErrFmcRuntimeIncorrectOrder
  | imageVerifierErrFmcLoadAddressImageSizeArithmeticOverflow
  | imageVerifierErrRuntimeLoadAddressImageSizeArithmeticOverflow
  | imageVerifierErrFmcRuntimeLoadAddrOverlap
  | imageVerifierErrFmcDigestFailure
  | imageVerifierErrFmcDigestMismatch
  | imageVerifierErrFmcLoadAddrInvalid
  | imageVerifierErrFmcLoadAddrUnaligned
  | imageVerifierErrFmcEntryPointInvalid
  | imageVerifierErrFmcEntryPointUnaligned
  | imageVerifierErrUpdateResetFmcDigestMismatch
  | imageVerifierErrRuntimeDigestFailure
  | imageVerifierErrRuntimeDigestMismatch
  | imageVerifierErrRuntimeLoadAddrInvalid
  | imageVerifierErrRuntimeLoadAddrUnaligned
  | imageVerifierErrRuntimeEntryPointInvalid
  | imageVerifierErrRuntimeEntryPointUnaligned
  | fwProcMailboxReservedPauser
  | fwProcMailboxFwLoadCmdInActiveMode
  | fwProcInvalidImageSize
  | fwProcMailboxInvalidCommand
  | fwProcMailboxInvalidRequestLength
  | fwProcMailboxInvalidChecksum
  | fwProcMailboxStashMeasurementMaxLimit
  | fwProcMailboxGetIdevCsrUnprovisionedCsr
  | fwProcSvnTooLarge
  | romIdevidInvalidCsr
  | romGlobalMeasurementLogExhausted
  | romUpdateResetFlowMailboxAccessFailure
  | romUpdateResetFlowInvalidFirmwareCommand
  | runtimeShutdown
  /-- An error a driver outside these sources reports (a SHA, HMAC or mailbox fault). -/
  | driverError
  deriving DecidableEq

end Caliptra
